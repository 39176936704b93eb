import CoroutineEngine.Configuration.Workbench
import CoroutineEngine.Proofs.Reading

/-!
# Saving and loading

A configuration that was saved is loaded from its file, as long as a document can hold its stack size; the
check of a configuration lets greater ones pass. A file need not say everything: what it leaves open has
its standard value, and nothing else has.

Results:
* `Excerpt.ofText?_text`: reading a file that lacks sections or values.
* `round_trip`: saving, loading, and what a document leaves open.
* `great_stack_refused`: a valid configuration that cannot be saved.
-/

namespace CoroutineEngine

/-! ## Writable paths -/

/-- A path that a text can be written to, in a directory that is made for it. -/
def Storage.IsWritable (s : Storage) (p : Path) : Prop :=
  ∃ t, s.prepare p = (.ok (), t) ∧ ∃ content u, t.write p content = .ok u

namespace Storage

/-- Whether a file can be written does not depend on what it will hold. -/
theorem write_ok_iff {s : Storage} {p : Path} {content : Content} :
    (∃ t, s.write p content = .ok t) ↔ ∃ here name, s.target p = .ok (.named here name) ∧
      p.isClosed = false ∧ Path.checkName name = .ok () ∧ s.isDirectory (here ++ [name]) = false := by
  unfold write
  cases ht : s.target p with
  | error fault => simp [bind, Except.bind]
  | ok e =>
    cases e with
    | passed => simp [bind, Except.bind, throw, throwThe, MonadExceptOf.throw]
    | named here name =>
      simp only [bind, Except.bind, Except.ok.injEq, Target.named.injEq, exists_and_left, exists_eq_left',
        and_assoc]
      cases p.isClosed <;> cases Path.checkName name <;> cases s.isDirectory (here ++ [name]) <;>
        simp [pure, Except.pure, throw, throwThe, MonadExceptOf.throw]

theorem makeDirectory_files {s t : Storage} {p : Path} (h : s.makeDirectory p = .ok t) :
    t.files = s.files := by
  unfold makeDirectory at h
  cases ht : s.target p with
  | error fault => simp [ht, bind, Except.bind] at h
  | ok e =>
    cases e with
    | passed => simp [ht, bind, Except.bind, throw, throwThe, MonadExceptOf.throw] at h
    | named here name =>
      simp only [ht, bind, Except.bind] at h
      cases hn : Path.checkName name with
      | error fault => simp [hn] at h
      | ok _ =>
        simp only [hn] at h
        split at h
        · simp [throw, throwThe, MonadExceptOf.throw] at h
        · obtain rfl := Except.ok.inj h
          rfl

theorem ensureDirectory_files {s t : Storage} {p : Path} (h : s.ensureDirectory p = .ok t) :
    t.files = s.files := by
  unfold ensureDirectory at h
  split at h
  · next hm => 
    obtain rfl := Except.ok.inj h
    exact makeDirectory_files hm
  · split at h <;> simp_all

theorem ensureDirectories_files (s : Storage) (pieces : List String) :
    (s.ensureDirectories pieces).2.files = s.files := by
  induction pieces with
  | nil => rfl
  | cons piece before ih =>
    have files {s t : Storage} {p : Path} (h : s.ensureDirectory p = .ok t) := ensureDirectory_files h
    unfold ensureDirectories
    split
    · exact ih
    · split
      · next h => exact files h
      · split
        · next h => simpa [h] using ih
        · next t h =>
          have ht : t.files = s.files := by simpa [h] using ih
          split
          · next h' => exact (files h').trans ht
          · exact ht
      · rfl

theorem prepare_files (s : Storage) (p : Path) : (s.prepare p).2.files = s.files := by
  unfold prepare
  split
  · rfl
  · split
    · rfl
    · exact ensureDirectories_files s _

end Storage

namespace Configuration

open Toml (Section)

/-! ## Files that lack something -/

/-- What a configuration file says. Each of its sections may be missing, and so may the value of each. -/
structure Excerpt where
  stackSize : Option (Option Nat)
  reportChildren : Option (Option Bool)
  level : Option (Option LogLevel)

namespace Excerpt

/-- Everything that there is to say of a configuration. -/
def whole (c : Configuration) : Excerpt :=
  ⟨some (some c.stackSize), some (some c.reportChildren), some (some c.level)⟩

/-- A section of a file, if it is there, with its value, if that is there. -/
def part {α : Type} (heading key : String) (write : α → String × Toml.Value) (v : Option (Option α)) :
    List Section :=
  (v.map fun v => ⟨heading, v.map fun a => (key, write a)⟩).toList

/-- The sections of a file. -/
def sections (e : Excerpt) : List Section :=
  part "fiber" "stack_size" (fun n : Nat => (toString n, .integer n)) e.stackSize ++
  part "gc" "report_owned_children" (fun b => (if b then "true" else "false", .boolean b)) e.reportChildren ++
  part "log" "level" (fun l => ("\"" ++ l.name ++ "\"", .text l.name)) e.level

/-- The text of a file. -/
def text (e : Excerpt) : String := String.join ((Section.joined e.sections).map (·.1 ++ "\n"))

/-- The configuration with the standard values for exactly what is missing. -/
def configuration (e : Excerpt) : Configuration where
  stackSize := e.stackSize.join.getD standard.stackSize
  reportChildren := e.reportChildren.join.getD standard.reportChildren
  level := e.level.join.getD standard.level

theorem text_whole (c : Configuration) (h : Toml.isStorable c.stackSize = true) :
    c.text? = some (whole c).text := by
  rw [text?, if_pos h]
  refine congrArg some (String.toList_inj.mp ?_)
  simp [fileLines, text, sections, part, whole, Section.joined, Section.lines]

theorem ofTable?_sections (e : Excerpt) :
    ofTable? (e.sections.map Section.table) = some e.configuration := by
  rcases e with ⟨_ | _ | n, _ | _ | b, _ | _ | l⟩ <;>
    simp [sections, part, Section.table, ofTable?, fromSection?, configuration, onlyValue?, stackSizeOf?,
      truthOf?, levelOf?, LogLevel.named?_name, List.lookup_cons, List.lookup_nil]

theorem part_readable {α : Type} {heading key : String} {write : α → String × Toml.Value}
    {v : Option (Option α)} (hheading : Toml.isKey heading = true) (hkey : Toml.isKey key = true)
    (h : ∀ a, v = some (some a) → Toml.ReadsAs (write a).1 (write a).2) :
    ∀ s ∈ part heading key write v, s.IsReadable := by
  intro s hs
  obtain ⟨v, rfl, rfl⟩ := Option.map_eq_some_iff.mp (Option.mem_toList.mp hs)
  refine ⟨hheading, fun e he => ?_, fun e he => ?_⟩
  · obtain ⟨a, -, rfl⟩ := Option.map_eq_some_iff.mp he
    exact hkey
  · obtain ⟨a, rfl, rfl⟩ := Option.map_eq_some_iff.mp he
    exact h a rfl

theorem sections_readable {e : Excerpt}
    (h : ∀ n, e.stackSize = some (some n) → Toml.isStorable n = true) : ∀ s ∈ e.sections, s.IsReadable := by
  intro s hs
  rcases List.mem_append.mp hs with hs | hs
  · rcases List.mem_append.mp hs with hs | hs
    · exact part_readable rfl rfl (fun n hn => Toml.readsAs_number (h n hn)) s hs
    · exact part_readable rfl rfl (fun b _ => Toml.readsAs_truth b) s hs
  · refine part_readable rfl rfl (fun l _ => Toml.readsAs_quoted ?_ ?_) s hs
    · cases l <;> decide
    · cases l <;> exact List.all_eq_true.mp (by decide)

theorem ofText?_text {e : Excerpt} (h : ∀ n, e.stackSize = some (some n) → Toml.isStorable n = true) :
    ofText? e.text = some e.configuration := by
  have hdocument : Toml.document? e.text = some (e.sections.map Section.table) := by
    refine Toml.document?_sections ?_ (sections_readable h)
    rcases e with ⟨_ | _ , _ | _ , _ | _⟩ <;> simp [sections, part]
  rw [ofText?, hdocument]
  exact ofTable?_sections e

end Excerpt

/-! ## What a document leaves open -/

/-- What a document says of a value: nothing if the section is missing, or if it lacks the value. -/
inductive Mentions (root : List (String × Toml.Value)) (heading name : String) : Option Toml.Value → Prop
  | noSection (h : root.lookup heading = none) : Mentions root heading name none
  | noEntry {v : Toml.Value} (h : root.lookup heading = some v) (hv : onlyValue? name v = some none) :
    Mentions root heading name none
  | entry {v w : Toml.Value} (h : root.lookup heading = some v) (hv : onlyValue? name v = some (some w)) :
    Mentions root heading name (some w)

/-- A document settles a value: what it says is that, and if it says nothing it is the standard one. -/
def Settles {α : Type} (root : List (String × Toml.Value)) (heading name : String)
    (read? : Toml.Value → Option α) (standard a : α) : Prop :=
  ∃ v, Mentions root heading name v ∧ v.elim (some standard) read? = some a

/-- The configuration that a document describes. -/
structure Describes (root : List (String × Toml.Value)) (c : Configuration) : Prop where
  stackSize : Settles root "fiber" "stack_size" stackSizeOf? standard.stackSize c.stackSize
  reportChildren : Settles root "gc" "report_owned_children" truthOf? standard.reportChildren c.reportChildren
  level : Settles root "log" "level" levelOf? standard.level c.level

theorem fromSection?_eq_some_iff {α : Type} {root : List (String × Toml.Value)} {heading name : String}
    {read? : Toml.Value → Option α} {standard a : α} :
    fromSection? root heading name standard read? = some a ↔
      Settles root heading name read? standard a := by
  unfold fromSection?
  constructor
  · intro h
    split at h
    · next hroot => exact ⟨none, .noSection hroot, h⟩
    · next v hroot =>
      split at h
      · cases h
      · next hv => exact ⟨none, .noEntry hroot hv, h⟩
      · next w hv => exact ⟨some w, .entry hroot hv, h⟩
  · rintro ⟨v, hv, ha⟩
    cases hv with
    | noSection hroot => simpa [hroot] using ha
    | noEntry hroot hv => simpa [hroot, hv] using ha
    | entry hroot hv => simpa [hroot, hv] using ha

theorem ofTable?_eq_some_iff {root : List (String × Toml.Value)} {c : Configuration} :
    ofTable? root = some c ↔ Describes root c := by
  simp only [ofTable?, Option.bind_eq_bind, Option.bind_eq_some_iff, fromSection?_eq_some_iff,
    Option.pure_def, Option.some.injEq]
  constructor
  · rintro ⟨n, hn, b, hb, l, hl, rfl⟩
    exact ⟨hn, hb, hl⟩
  · rintro ⟨hn, hb, hl⟩
    exact ⟨_, hn, _, hb, _, hl, rfl⟩

/-! ## Loading what was saved -/

theorem load_ok_iff {s : String} {c : Configuration} :
    load (.ok (.text s)) = .ok c ↔ ofText? s = some c ∧ c.validate = .ok () := by
  simp only [load, read]
  cases h : ofText? s with
  | none => simp
  | some d =>
    simp only [Option.some.injEq]
    constructor
    · intro hread
      split at hread
      · next hd =>
        obtain rfl := Except.ok.inj hread
        exact ⟨rfl, hd⟩
      · cases hread
    · rintro ⟨rfl, hd⟩
      rw [hd]

theorem store_ok {s : Storage} {p : Path} {c : Configuration} (hp : s.IsWritable p)
    (hc : c.validate = .ok ()) (hsize : (c.stackSize : Int) ≤ Toml.greatestInteger) :
    ∃ text t, store s p c = (.ok text, t) ∧ load (t.read p) = .ok c := by
  obtain ⟨t, ht, hwrite⟩ := hp
  have hstorable := Toml.isStorable_iff.mpr hsize
  obtain ⟨u, hu⟩ : ∃ u, t.write p (.text (Excerpt.whole c).text) = .ok u := by
    obtain ⟨content, hcontent⟩ := hwrite
    exact Storage.write_ok_iff.mpr (Storage.write_ok_iff.mp hcontent)
  refine ⟨(Excerpt.whole c).text, u, ?_, ?_⟩
  · simp only [store, ht, Excerpt.text_whole c hstorable, hu]
  · rw [Storage.read_write hu]
    refine load_ok_iff.mpr ⟨Excerpt.ofText?_text ?_, hc⟩
    rintro n ⟨⟩
    exact hstorable

theorem store_unwritable {s : Storage} {p : Path} {c : Configuration} (hp : s.IsWritable p)
    (hsize : Toml.greatestInteger < c.stackSize) :
    ∃ t, store s p c = (.error .unwritable, t) ∧ t.files = s.files := by
  obtain ⟨t, ht, -⟩ := hp
  refine ⟨t, ?_, ?_⟩
  · simp only [store, ht, (text?_eq_none_iff c).mpr hsize]
  · have := s.prepare_files p
    rwa [ht] at this

/-- A valid configuration whose stack size a document can hold comes back from the file it is saved to, and
any other one is refused and no file changes. Whatever a file leaves open has its standard value, be it a
saved file that lost sections or values or any other document. -/
theorem round_trip (s : Storage) (p : Path) (c : Configuration) (hp : s.IsWritable p) (hc : c.validate = .ok ()) :
    ((c.stackSize : Int) ≤ Toml.greatestInteger →
      ∃ text t, store s p c = (.ok text, t) ∧ load (t.read p) = .ok c) ∧
    (Toml.greatestInteger < c.stackSize →
      ∃ t, store s p c = (.error .unwritable, t) ∧ t.files = s.files) ∧
    (∀ e : Excerpt,
      (∀ n, e.stackSize = some (some n) → leastStackSize ≤ n ∧ (n : Int) ≤ Toml.greatestInteger) →
      load (.ok (.text e.text)) = .ok e.configuration) ∧
    ∀ (text : String) (root : List (String × Toml.Value)) (c : Configuration),
      Toml.document? text = some root →
      (load (.ok (.text text)) = .ok c ↔ Describes root c ∧ c.validate = .ok ()) := by
  refine ⟨store_ok hp hc, store_unwritable hp, fun e he => ?_, fun text root c hroot => ?_⟩
  · refine load_ok_iff.mpr ⟨Excerpt.ofText?_text fun n hn => Toml.isStorable_iff.mpr (he n hn).2, ?_⟩
    refine (validate_eq_ok_iff _).mpr ?_
    rcases e with ⟨_ | _ | n, _, _⟩
    · exact (validate_eq_ok_iff standard).mp validate_standard
    · exact (validate_eq_ok_iff standard).mp validate_standard
    · exact (he n rfl).1
  · refine load_ok_iff.trans ?_
    simp only [ofText?, hroot, Option.bind_eq_bind, Option.bind_some, ofTable?_eq_some_iff]

theorem empty_isWritable : Storage.empty.IsWritable ["", "config.toml"] := by
  refine ⟨.empty, rfl, .bytes, ⟨[], [(["config.toml"], .bytes)]⟩, ?_⟩
  simp [Storage.write, Storage.target, Path.check]
  rfl

/-- The standard configuration comes back, and so does a file of two sections, one of them empty. -/
theorem round_trip_standard :
    (∃ text t, store .empty ["", "config.toml"] standard = (.ok text, t) ∧
      load (t.read ["", "config.toml"]) = .ok standard) ∧
    load (.ok (.text (Excerpt.mk (some none) none (some (some .warn))).text)) =
      .ok { standard with level := .warn } := by
  have hsize : (standard.stackSize : Int) ≤ Toml.greatestInteger := by decide
  obtain ⟨hstored, -, hexcerpt, -⟩ := round_trip .empty _ standard empty_isWritable validate_standard
  exact ⟨hstored hsize, hexcerpt _ nofun⟩

/-- The configuration with the least stack size that no document can hold. -/
def great : Configuration := { standard with stackSize := 9223372036854775808 }

/-- It is valid, and it is refused where others could be saved. -/
theorem great_stack_refused :
    great.validate = .ok () ∧ Storage.empty.IsWritable ["", "config.toml"] ∧
      store .empty ["", "config.toml"] great = (.error .unwritable, .empty) := by
  have hprepare : Storage.empty.prepare ["", "config.toml"] = (.ok (), .empty) := rfl
  have hsize : Toml.greatestInteger < great.stackSize := by decide
  refine ⟨rfl, empty_isWritable, ?_⟩
  simp only [store, hprepare, (text?_eq_none_iff great).mpr hsize]

end Configuration

end CoroutineEngine
