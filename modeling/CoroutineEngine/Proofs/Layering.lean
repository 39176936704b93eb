import CoroutineEngine.CommandLine.Response
import CoroutineEngine.Proofs.RoundTrip
import Mathlib.Data.List.Basic
import Mathlib.Data.List.TakeWhile

/-!
# Configurations in layers

A file lies at the bottom of a configuration, the environment above it, and the command line on top. The file
must be valid by itself, and so must the outcome. What the variable of the environment says is only looked at
without the blanks around it; an environment has no variables but those whose value is a text.

Results:
* `Count.parse?_eq_some_iff`, `Blank.trim_eq_iff`: which texts are counts, and what trimming leaves.
* `load_eq_ok_iff`, `load_eq_error_iff`: what a file gives.
* `configuration_layered`: which configuration counts, and when there is none.
-/

namespace CoroutineEngine

/-! ## Counts -/

namespace Count

/-- A text writes a count: in decimal digits, of which there is at least one, and which a plus sign may
precede. -/
inductive Writes : List Char → Nat → Prop
  | plain {s : List Char} (h : s ≠ []) (hs : ∀ c ∈ s, c.isDigit = true) : Writes s (Nat.ofDigitChars 10 s 0)
  | signed {s : List Char} (h : s ≠ []) (hs : ∀ c ∈ s, c.isDigit = true) :
    Writes ('+' :: s) (Nat.ofDigitChars 10 s 0)

theorem digit?_eq_some_iff {c : Char} {d : Nat} :
    digit? c = some d ↔ c.isDigit = true ∧ d = c.toNat - '0'.toNat := by
  have hc : ('0' ≤ c ∧ c ≤ '9') ↔ c.isDigit = true := by
    simp only [Char.isDigit, Bool.and_eq_true, decide_eq_true_eq]
    exact Iff.rfl
  unfold digit?
  split
  · next h => simp [hc.mp h, eq_comm]
  · next h => simp [show c.isDigit ≠ true from fun h' => h (hc.mpr h')]

theorem le_ofDigitChars (s : List Char) (n : Nat) : n ≤ Nat.ofDigitChars 10 s n := by
  induction s generalizing n with
  | nil => exact Nat.le_refl n
  | cons c rest ih =>
    rw [Nat.ofDigitChars_cons]
    exact Nat.le_trans (by omega) (ih _)

/-- The limit is looked at after every digit, which is no different from looking at it in the end: more
digits make no number smaller. -/
theorem digits?_eq_some_iff {limit n m : Nat} {s : List Char} (hn : n ≤ limit) :
    digits? limit n s = some m ↔
      (∀ c ∈ s, c.isDigit = true) ∧ Nat.ofDigitChars 10 s n = m ∧ m ≤ limit := by
  induction s generalizing n with
  | nil =>
    simp only [digits?, Option.some.injEq, List.not_mem_nil, false_implies, implies_true, true_and]
    constructor
    · rintro rfl
      exact ⟨rfl, hn⟩
    · exact fun h => h.1
  | cons c rest ih =>
    rw [Nat.ofDigitChars_cons]
    cases hd : digit? c with
    | none =>
      have hc : c.isDigit ≠ true := by
        intro h
        rw [digit?_eq_some_iff.mpr ⟨h, rfl⟩] at hd
        cases hd
      simp [digits?, hd, hc]
    | some d =>
      obtain ⟨hc, rfl⟩ := digit?_eq_some_iff.mp hd
      have hcomm : n * 10 = 10 * n := Nat.mul_comm n 10
      simp only [digits?, hd, hcomm, List.mem_cons, forall_eq_or_imp, hc, true_and]
      split
      · next hle => exact ih hle
      · next hgt =>
        simp only [reduceCtorEq, false_iff]
        rintro ⟨-, rfl, hm⟩
        exact hgt (Nat.le_trans (le_ofDigitChars rest _) hm)

/-- The counts that are accepted are those that are written and do not exceed the limit. -/
theorem parse?_eq_some_iff {limit n : Nat} {s : List Char} :
    parse? limit s = some n ↔ Writes s n ∧ n ≤ limit := by
  have plus : ('+' : Char).isDigit = false := by decide
  constructor
  · intro h
    unfold parse? at h
    split at h
    · cases h
    · cases h
    · next rest hne =>
      obtain ⟨hs, rfl, hle⟩ := (digits?_eq_some_iff (Nat.zero_le _)).mp h
      exact ⟨.signed (fun he => hne (by rw [he])) hs, hle⟩
    · next hnil _ _ =>
      obtain ⟨hs, rfl, hle⟩ := (digits?_eq_some_iff (Nat.zero_le _)).mp h
      exact ⟨.plain hnil hs, hle⟩
  · rintro ⟨h, hle⟩
    cases h with
    | plain hne hs =>
      have hplus : ∀ rest, s ≠ '+' :: rest := by
        rintro rest rfl
        rw [hs '+' List.mem_cons_self] at plus
        cases plus
      unfold parse?
      split
      · exact absurd rfl hne
      · exact absurd rfl (hplus [])
      · exact absurd rfl (hplus _)
      · exact (digits?_eq_some_iff (Nat.zero_le _)).mpr ⟨hs, rfl, hle⟩
    | @signed rest hne hs =>
      unfold parse?
      split
      · next he => cases he
      · next he => exact absurd (List.cons.inj he).2 hne
      · next he =>
        obtain ⟨-, rfl⟩ := List.cons.inj he
        exact (digits?_eq_some_iff (Nat.zero_le _)).mpr ⟨hs, rfl, hle⟩
      · next _ h => exact absurd rfl (h rest)

end Count

/-! ## Blanks -/

namespace Blank

/-- A text without the blanks at its ends: what was left out is blank, and no blank is left at an end. -/
structure Trims (s t : List Char) : Prop where
  parts : ∃ before after, s = before ++ t ++ after ∧
    (∀ c ∈ before, isBlank c = true) ∧ ∀ c ∈ after, isBlank c = true
  first : ∀ c, t.head? = some c → isBlank c = false
  last : ∀ c, t.getLast? = some c → isBlank c = false

theorem head?_dropWhile {s : List Char} {c : Char} (h : (s.dropWhile isBlank).head? = some c) :
    isBlank c = false := by
  induction s with
  | nil => simp at h
  | cons a rest ih =>
    rw [List.dropWhile_cons] at h
    split at h
    · exact ih h
    · next ha =>
      obtain rfl := Option.some.inj h
      simpa using ha

theorem dropWhile_eq {before rest : List Char} (hb : ∀ c ∈ before, isBlank c = true)
    (hr : ∀ c, rest.head? = some c → isBlank c = false) :
    (before ++ rest).dropWhile isBlank = rest := by
  induction before with
  | nil =>
    cases rest with
    | nil => rfl
    | cons c rest => simp [hr c rfl]
  | cons a before ih =>
    rw [List.cons_append, List.dropWhile_cons_of_pos (hb a List.mem_cons_self)]
    exact ih fun c hc => hb c (List.mem_cons_of_mem a hc)

theorem trims_trim (s : List Char) : Trims s (trim s) := by
  have hs : s = s.takeWhile isBlank ++ s.dropWhile isBlank := List.takeWhile_append_dropWhile.symm
  -- what is cut off at the end is what is cut off at the start of the reversed text
  have hr : s.dropWhile isBlank = trim s ++ ((s.dropWhile isBlank).reverse.takeWhile isBlank).reverse := by
    rw [trim, ← List.reverse_append, List.takeWhile_append_dropWhile, List.reverse_reverse]
  constructor
  · refine ⟨s.takeWhile isBlank, ((s.dropWhile isBlank).reverse.takeWhile isBlank).reverse, ?_, ?_, ?_⟩
    · rw [List.append_assoc, ← hr, ← hs]
    · exact fun c hc => List.mem_takeWhile_imp hc
    · exact fun c hc => List.mem_takeWhile_imp (List.mem_reverse.mp hc)
  · intro c hc
    refine head?_dropWhile (s := s) ?_
    rw [hr, List.head?_append, hc]
    rfl
  · intro c hc
    refine head?_dropWhile (s := (s.dropWhile isBlank).reverse) ?_
    rwa [trim, List.getLast?_reverse] at hc

/-- What trimming leaves is told by its ends. -/
theorem trim_eq_iff {s t : List Char} : trim s = t ↔ Trims s t := by
  constructor
  · rintro rfl
    exact trims_trim s
  · rintro ⟨⟨before, after, rfl, hb, ha⟩, hfirst, hlast⟩
    cases ht : t with
    | nil =>
      have hall : (before ++ [] ++ after).dropWhile isBlank = [] := by
        refine List.dropWhile_eq_nil_iff.mpr fun c hc => ?_
        rcases List.mem_append.mp (List.append_nil before ▸ hc) with hc | hc
        · exact hb c hc
        · exact ha c hc
      rw [trim, hall]
      rfl
    | cons a rest =>
      have hhead : ∀ c, (t ++ after).head? = some c → isBlank c = false := by
        intro c hc
        rw [ht] at hc
        exact hfirst c (by rw [ht]; exact hc)
      rw [← ht, trim, List.append_assoc, dropWhile_eq hb hhead, List.reverse_append,
        dropWhile_eq (fun c hc => ha c (List.mem_reverse.mp hc)), List.reverse_reverse]
      rintro c hc
      exact hlast c (by rwa [List.head?_reverse] at hc)

end Blank

namespace Configuration

open CommandLine (configure)

/-! ## Definitions -/

/-- The text of the variable gives a stack size: without the blanks around it, it writes a count of 64 bits. -/
def Sizes (raw : String) (size : Nat) : Prop :=
  ∃ t, Blank.Trims raw.toList t ∧ Count.Writes t size ∧ size ≤ Count.limit64

/-- A file holds a configuration that is valid by itself. -/
def Holds (content : Except StorageFault Content) (c : Configuration) : Prop :=
  ∃ s root, content = .ok (.text s) ∧ Toml.document? s = some root ∧ Describes root c ∧
    leastStackSize ≤ c.stackSize

/-- Why a file gives no configuration: it cannot be read, or does not hold a text; its text is no document, or
the document describes no configuration; the configuration is not valid by itself. -/
inductive Spoils (content : Except StorageFault Content) : ConfigurationError → Prop
  | unreadable {fault : StorageFault} (h : content = .error fault) : Spoils content (.storage fault)
  | noText (h : content = .ok .bytes) : Spoils content (.storage .notText)
  | noDocument {s : String} (h : content = .ok (.text s)) (hs : Toml.document? s = none) :
    Spoils content .malformed
  | noConfiguration {s : String} {root : List (String × Toml.Value)} (h : content = .ok (.text s))
      (hs : Toml.document? s = some root) (hroot : ∀ c, ¬ Describes root c) : Spoils content .malformed
  | invalid {s : String} {root : List (String × Toml.Value)} {c : Configuration}
      (h : content = .ok (.text s)) (hs : Toml.document? s = some root) (hroot : Describes root c)
      (hc : c.stackSize < leastStackSize) : Spoils content (.stackTooSmall c.stackSize)

/-- The bottom layer: the file that is asked for, or else the user's file; the standard configuration, if there
is no place for such a file or nothing is there. -/
inductive Bottom (files : Files) (e : Environment) : Option String → Configuration → Prop
  | asked {path : String} {c : Configuration} (h : Holds (files path) c) : Bottom files e (some path) c
  | user {path : String} {c : Configuration} (hp : location? e = some path) (h : Holds (files path) c) :
    Bottom files e none c
  | absent {path : String} {fault : StorageFault} (hp : location? e = some path)
      (h : files path = .error fault) (hf : fault.isAbsence = true) : Bottom files e none standard
  | placeless (hp : location? e = none) : Bottom files e none standard

/-- Why there is no bottom layer. -/
inductive Bottomless (files : Files) (e : Environment) : Option String → ConfigurationError → Prop
  | asked {path : String} {error : ConfigurationError} (h : Spoils (files path) error) :
    Bottomless files e (some path) error
  | user {path : String} {error : ConfigurationError} (hp : location? e = some path)
      (hf : ∀ fault, files path = .error fault → fault.isAbsence = false) (h : Spoils (files path) error) :
    Bottomless files e none error

/-- The stack size that counts: the command line's if it gives one, or else the environment's if the variable is
set, or else the one of the bottom layer. -/
inductive Prevails (raw : Option String) (o : Overlay) (c : Configuration) : Nat → Prop
  | commandLine {size : Nat} (ho : o.stackSize = some size) : Prevails raw o c size
  | environment {text : String} {size : Nat} (ho : o.stackSize = none) (hraw : raw = some text)
      (h : Sizes text size) : Prevails raw o c size
  | bottom (ho : o.stackSize = none) (hraw : raw = none) : Prevails raw o c c.stackSize

/-- How the layers of a configuration settle it.

* `gives`: a configuration that results has the stack size that counts, which is great enough, logs everything if
  that is asked for, and else what the bottom layer says, and reports as the bottom layer says. Whenever there is a
  bottom layer, the variable is not set or gives a size, and the size that counts is great enough, one results.
* `fails`: otherwise there is none: because there is no bottom layer, because the text of the variable gives no
  size, or because the size that counts is too small; and for no other reason.
* `unaltered`, `overridden`, `refused`: an override by the environment changes nothing if the variable is not set,
  nothing but the stack size if it gives one, and nothing at all if it gives none. -/
structure Layered (files : Files) (e : Environment) (file : Option String) (o : Overlay) : Prop where
  gives : ∀ d, configure files e file o = .ok d ↔ ∃ c, Bottom files e file c ∧
    (∀ raw, e.lookup stackSizeVariable = some raw → ∃ size, Sizes raw size) ∧
    Prevails (e.lookup stackSizeVariable) o c d.stackSize ∧ leastStackSize ≤ d.stackSize ∧
    d.level = (if o.verbose then .debug else c.level) ∧ d.reportChildren = c.reportChildren
  fails : (∃ error, configure files e file o = .error error) ↔ (∃ error, Bottomless files e file error) ∨
    (∃ raw, e.lookup stackSizeVariable = some raw ∧ ∀ size, ¬ Sizes raw size) ∨
    ∃ c size, Bottom files e file c ∧ Prevails (e.lookup stackSizeVariable) o c size ∧ size < leastStackSize
  unaltered : ∀ w : Workbench, e.lookup stackSizeVariable = none →
    w.step (.override e) = (.overridden none w.current, w)
  overridden : ∀ (w : Workbench) raw size, e.lookup stackSizeVariable = some raw → Sizes raw size →
    w.step (.override e) = (.overridden none { w.current with stackSize := size },
      { w with current := { w.current with stackSize := size } })
  refused : ∀ (w : Workbench) raw, e.lookup stackSizeVariable = some raw → (∀ size, ¬ Sizes raw size) →
    w.step (.override e) = (.overridden (some (.invalidVariable raw)) w.current, w)

/-! ## Helpers -/

theorem stackSizeOfText?_eq_some_iff {raw : String} {size : Nat} :
    stackSizeOfText? raw = some size ↔ Sizes raw size := by
  unfold stackSizeOfText?
  rw [Count.parse?_eq_some_iff]
  constructor
  · intro h
    exact ⟨_, Blank.trims_trim _, h⟩
  · rintro ⟨t, ht, h⟩
    rwa [Blank.trim_eq_iff.mpr ht]

theorem stackSizeOfText?_eq_none_iff {raw : String} :
    stackSizeOfText? raw = none ↔ ∀ size, ¬ Sizes raw size := by
  rw [Option.eq_none_iff_forall_ne_some]
  exact forall_congr' fun size => not_congr stackSizeOfText?_eq_some_iff

theorem ofText?_of_document {s : String} {root : List (String × Toml.Value)}
    (hs : Toml.document? s = some root) : ofText? s = ofTable? root := by
  simp [ofText?, hs]

theorem load_eq_ok_iff {content : Except StorageFault Content} {c : Configuration} :
    load content = .ok c ↔ Holds content c := by
  constructor
  · intro h
    rcases content with fault | s | _
    · cases h
    · obtain ⟨hs, hc⟩ := load_ok_iff.mp h
      cases hroot : Toml.document? s with
      | none => simp [ofText?, hroot] at hs
      | some root =>
        rw [ofText?_of_document hroot] at hs
        exact ⟨s, root, rfl, hroot, ofTable?_eq_some_iff.mp hs, (validate_eq_ok_iff c).mp hc⟩
    · cases h
  · rintro ⟨s, root, rfl, hroot, hd, hc⟩
    refine load_ok_iff.mpr ⟨?_, (validate_eq_ok_iff c).mpr hc⟩
    rw [ofText?_of_document hroot]
    exact ofTable?_eq_some_iff.mpr hd

theorem validate_eq_error_iff {c : Configuration} {error : ConfigurationError} :
    c.validate = .error error ↔ c.stackSize < leastStackSize ∧ error = .stackTooSmall c.stackSize := by
  unfold validate
  split
  · next h => simp [h, eq_comm]
  · next h => simp [h]

theorem load_eq_error_iff {content : Except StorageFault Content} {error : ConfigurationError} :
    load content = .error error ↔ Spoils content error := by
  constructor
  · intro h
    rcases content with fault | s | _
    · obtain rfl := Except.error.inj h
      exact .unreadable rfl
    · simp only [load, read] at h
      cases hroot : Toml.document? s with
      | none =>
        rw [show ofText? s = none by simp [ofText?, hroot]] at h
        obtain rfl := Except.error.inj h
        exact .noDocument rfl hroot
      | some root =>
        rw [ofText?_of_document hroot] at h
        cases hc : ofTable? root with
        | none =>
          rw [hc] at h
          obtain rfl := Except.error.inj h
          refine .noConfiguration rfl hroot fun c hd => ?_
          rw [ofTable?_eq_some_iff.mpr hd] at hc
          cases hc
        | some c =>
          simp only [hc] at h
          split at h
          · cases h
          · next e he =>
            obtain rfl := Except.error.inj h
            obtain ⟨hsmall, rfl⟩ := validate_eq_error_iff.mp he
            exact .invalid rfl hroot (ofTable?_eq_some_iff.mp hc) hsmall
    · obtain rfl := Except.error.inj h
      exact .noText rfl
  · intro h
    cases h with
    | unreadable h => rw [h]; rfl
    | noText h => rw [h]; rfl
    | noDocument h hs => simp [h, load, read, ofText?, hs]
    | noConfiguration h hs hroot =>
      have hnone : ofTable? _ = none :=
        Option.eq_none_iff_forall_ne_some.mpr fun c hc => hroot c (ofTable?_eq_some_iff.mp hc)
      simp [h, load, read, ofText?_of_document hs, hnone]
    | invalid h hs hroot hc =>
      simp [h, load, read, ofText?_of_document hs, ofTable?_eq_some_iff.mpr hroot,
        validate_eq_error_iff.mpr ⟨hc, rfl⟩]

/-- The bottom layer, as it is looked for. -/
def bottom (files : Files) (e : Environment) : Option String → Except ConfigurationError Configuration
  | some path => load (files path)
  | none => loadUser files e

theorem configure_eq (files : Files) (e : Environment) (file : Option String) (o : Overlay) :
    configure files e file o = layered (bottom files e file) (e.lookup stackSizeVariable) o := by
  cases file <;> rfl

/-- The user's file counts as any other one, unless it is absent. -/
theorem loadUser_eq {files : Files} {e : Environment} {path : String} (hp : location? e = some path)
    (hf : ∀ fault, files path = .error fault → fault.isAbsence = false) :
    loadUser files e = load (files path) := by
  unfold loadUser
  rw [hp]
  cases hcontent : files path with
  | ok content => simp [hcontent]
  | error fault => simp [hcontent, hf fault hcontent, load]

theorem loadUser_absent {files : Files} {e : Environment} {path : String} {fault : StorageFault}
    (hp : location? e = some path) (h : files path = .error fault) (hf : fault.isAbsence = true) :
    loadUser files e = .ok standard := by
  simp [loadUser, hp, h, hf]

theorem Holds.present {content : Except StorageFault Content} {c : Configuration} (h : Holds content c)
    (fault : StorageFault) (hfault : content = .error fault) : fault.isAbsence = false := by
  obtain ⟨s, root, rfl, -⟩ := h
  cases hfault

theorem bottom_eq_ok_iff {files : Files} {e : Environment} {file : Option String} {c : Configuration} :
    bottom files e file = .ok c ↔ Bottom files e file c := by
  constructor
  · intro h
    cases file with
    | some path => exact .asked (load_eq_ok_iff.mp h)
    | none =>
      change loadUser files e = .ok c at h
      cases hp : location? e with
      | none =>
        rw [loadUser, hp] at h
        obtain rfl := Except.ok.inj h
        exact .placeless hp
      | some path =>
        by_cases hf : ∀ fault, files path = .error fault → fault.isAbsence = false
        · rw [loadUser_eq hp hf] at h
          exact .user hp (load_eq_ok_iff.mp h)
        · push Not at hf
          obtain ⟨fault, hfault, ha⟩ := hf
          have ha' : fault.isAbsence = true := by simpa using ha
          rw [loadUser_absent hp hfault ha'] at h
          obtain rfl := Except.ok.inj h
          exact .absent hp hfault ha'
  · intro h
    cases h with
    | asked h => exact load_eq_ok_iff.mpr h
    | user hp h => exact (loadUser_eq hp h.present).trans (load_eq_ok_iff.mpr h)
    | absent hp h hf => exact loadUser_absent hp h hf
    | placeless hp =>
      show loadUser files e = _
      rw [loadUser, hp]

theorem bottom_eq_error_iff {files : Files} {e : Environment} {file : Option String}
    {error : ConfigurationError} : bottom files e file = .error error ↔ Bottomless files e file error := by
  constructor
  · intro h
    cases file with
    | some path => exact .asked (load_eq_error_iff.mp h)
    | none =>
      change loadUser files e = .error error at h
      cases hp : location? e with
      | none =>
        rw [loadUser, hp] at h
        cases h
      | some path =>
        by_cases hf : ∀ fault, files path = .error fault → fault.isAbsence = false
        · rw [loadUser_eq hp hf] at h
          exact .user hp hf (load_eq_error_iff.mp h)
        · push Not at hf
          obtain ⟨fault, hfault, ha⟩ := hf
          rw [loadUser_absent hp hfault (by simpa using ha)] at h
          cases h
  · intro h
    cases h with
    | asked h => exact load_eq_error_iff.mpr h
    | user hp hf h => exact (loadUser_eq hp hf).trans (load_eq_error_iff.mpr h)

/-- The stack size under an overlay is the one that counts. -/
theorem prevails_under {c d : Configuration} {raw : Option String} {o : Overlay} (h : c.override raw = .ok d) :
    Prevails raw o c (d.under o).stackSize := by
  cases ho : o.stackSize with
  | some size =>
    have hsize : Prevails raw o c size := .commandLine ho
    simpa [under, ho] using hsize
  | none =>
    unfold override at h
    cases raw with
    | none =>
      obtain rfl := Except.ok.inj h
      simpa [under, ho] using Prevails.bottom (c := c) ho rfl
    | some text =>
      simp only at h
      split at h
      · next size hsize =>
        obtain rfl := Except.ok.inj h
        simpa [under, ho] using Prevails.environment (c := c) ho rfl (stackSizeOfText?_eq_some_iff.mp hsize)
      · cases h

theorem Prevails.unique {raw : Option String} {o : Overlay} {c : Configuration} {m n : Nat}
    (hm : Prevails raw o c m) (hn : Prevails raw o c n) : m = n := by
  cases hm with
  | commandLine hm =>
    cases hn with
    | commandLine hn => exact Option.some.inj (hm.symm.trans hn)
    | environment hn => rw [hm] at hn; cases hn
    | bottom hn => rw [hm] at hn; cases hn
  | environment ho hraw h =>
    cases hn with
    | commandLine hn => rw [ho] at hn; cases hn
    | environment _ hraw' h' =>
      obtain rfl := Option.some.inj (hraw.symm.trans hraw')
      exact Option.some.inj ((stackSizeOfText?_eq_some_iff.mpr h).symm.trans (stackSizeOfText?_eq_some_iff.mpr h'))
    | bottom _ hraw' => rw [hraw] at hraw'; cases hraw'
  | bottom ho hraw =>
    cases hn with
    | commandLine hn => rw [ho] at hn; cases hn
    | environment _ hraw' => rw [hraw] at hraw'; cases hraw'
    | bottom => rfl

/-- An override by the text of the variable fails just if the text gives no size. -/
theorem override_eq_error_iff {c : Configuration} {raw : Option String} {error : ConfigurationError} :
    c.override raw = .error error ↔
      ∃ text, raw = some text ∧ (∀ size, ¬ Sizes text size) ∧ error = .invalidVariable text := by
  cases raw with
  | none => simp [override]
  | some text =>
    simp only [override, Option.some.injEq, exists_eq_left', ← stackSizeOfText?_eq_none_iff]
    cases stackSizeOfText? text with
    | none => simp [eq_comm]
    | some size => simp

theorem override_of_sizes {c : Configuration} {raw : String} {size : Nat} (h : Sizes raw size) :
    c.override (some raw) = .ok { c with stackSize := size } := by
  simp [override, stackSizeOfText?_eq_some_iff.mpr h]

/-- There is an override unless the text of the variable gives no size. -/
theorem exists_override {c : Configuration} {raw : Option String}
    (h : ∀ text, raw = some text → ∃ size, Sizes text size) : ∃ d, c.override raw = .ok d := by
  cases raw with
  | none => exact ⟨c, override_none c⟩
  | some text =>
    obtain ⟨size, hsize⟩ := h text rfl
    exact ⟨_, override_of_sizes hsize⟩

/-- The layers above a configuration give one, if the variable allows it and the size that counts is great
enough. -/
theorem layered_eq_ok_iff {file : Except ConfigurationError Configuration} {raw : Option String} {o : Overlay}
    {d : Configuration} :
    layered file raw o = .ok d ↔ ∃ c, file = .ok c ∧ (∀ text, raw = some text → ∃ size, Sizes text size) ∧
      Prevails raw o c d.stackSize ∧ leastStackSize ≤ d.stackSize ∧
      d.level = (if o.verbose then .debug else c.level) ∧ d.reportChildren = c.reportChildren := by
  constructor
  · intro h
    obtain ⟨c, c', rfl, hc, rfl, hd⟩ := layered_eq_ok h
    obtain ⟨hreport, hlevel⟩ := override_eq_ok hc
    refine ⟨c, rfl, ?_, prevails_under hc, (validate_eq_ok_iff _).mp hd, ?_, hreport⟩
    · intro text htext
      by_contra hnone
      rw [override_eq_error_iff.mpr ⟨text, htext, not_exists.mp hnone, rfl⟩] at hc
      cases hc
    · rw [under, hlevel]
  · rintro ⟨c, rfl, hraw, hsize, hleast, hlevel, hreport⟩
    obtain ⟨c', hc⟩ := exists_override (c := c) hraw
    obtain ⟨hreport', hlevel'⟩ := override_eq_ok hc
    have hd : d = c'.under o := by
      have hstack : d.stackSize = (c'.under o).stackSize := hsize.unique (prevails_under hc)
      rcases d with ⟨⟨_, _⟩, _⟩
      simp_all [under]
    have hvalid : (c'.under o).validate = .ok () := (validate_eq_ok_iff _).mpr (hd ▸ hleast)
    simp [layered, hc, hvalid, hd]

theorem layered_eq_error_iff {file : Except ConfigurationError Configuration} {raw : Option String}
    {o : Overlay} : (∃ error, layered file raw o = .error error) ↔
      (∃ error, file = .error error) ∨ (∃ text, raw = some text ∧ ∀ size, ¬ Sizes text size) ∨
        ∃ c size, file = .ok c ∧ Prevails raw o c size ∧ size < leastStackSize := by
  cases file with
  | error error => simp [layered]
  | ok c =>
    cases hc : c.override raw with
    | error error =>
      obtain ⟨text, rfl, htext, rfl⟩ := override_eq_error_iff.mp hc
      simp [layered, hc, htext]
    | ok c' =>
      have hraw : ¬ ∃ text, raw = some text ∧ ∀ size, ¬ Sizes text size := by
        rintro ⟨text, rfl, htext⟩
        rw [override_eq_error_iff.mpr ⟨text, rfl, htext, rfl⟩] at hc
        cases hc
      have hsize := prevails_under (o := o) hc
      by_cases hleast : leastStackSize ≤ (c'.under o).stackSize
      · have hnot : ¬ ∃ size, Prevails raw o c size ∧ size < leastStackSize := by
          rintro ⟨size, hsize', hlt⟩
          rw [hsize'.unique hsize] at hlt
          exact absurd hleast (Nat.not_le_of_lt hlt)
        simp_all [layered, (validate_eq_ok_iff _).mpr hleast]
      · have hlt : (c'.under o).stackSize < leastStackSize := Nat.lt_of_not_le hleast
        have hinvalid := validate_eq_error_iff.mpr ⟨hlt, rfl⟩
        simp only [layered, hc, hinvalid]
        exact iff_of_true ⟨_, rfl⟩ (.inr (.inr ⟨c, _, rfl, hsize, hlt⟩))

/-- The layers settle the configuration: what the command line does not say comes from the environment, what
neither says from the file, and what none says is standard. -/
theorem configuration_layered (files : Files) (e : Environment) (file : Option String) (o : Overlay) :
    Layered files e file o := by
  constructor
  case gives =>
    intro d
    rw [configure_eq, layered_eq_ok_iff]
    exact exists_congr fun c => and_congr bottom_eq_ok_iff Iff.rfl
  case fails =>
    rw [configure_eq, layered_eq_error_iff]
    refine or_congr (exists_congr fun _ => bottom_eq_error_iff) (or_congr Iff.rfl ?_)
    exact exists_congr fun c => exists_congr fun size => and_congr bottom_eq_ok_iff Iff.rfl
  case unaltered =>
    intro w h
    simp [Workbench.step, overrideFrom, h, override_none]
  case overridden =>
    intro w raw size h hsize
    simp [Workbench.step, overrideFrom, h, override_of_sizes hsize]
  case refused =>
    intro w raw h hsize
    have herror : w.current.override (some raw) = .error (.invalidVariable raw) :=
      override_eq_error_iff.mpr ⟨raw, rfl, hsize, rfl⟩
    simp [Workbench.step, overrideFrom, h, herror]

end Configuration

end CoroutineEngine
