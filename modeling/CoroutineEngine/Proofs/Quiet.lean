import CoroutineEngine.Operation.Coroutines
import CoroutineEngine.Operation.Fibers
import CoroutineEngine.Operation.Thread

/-!
# Computations that leave coroutines in peace

Most of what a client does has nothing to do with the life of a coroutine: it makes objects, takes
handles, reads and changes the ambient state. Such a computation changes at most the handles and the
names of the coroutines that exist, and builds new ones. It keeps the registry right, and the hook that is
installed afterwards is the one that was last asked for.

Results:
* `Undisturbed.trans`, `Quiet.bind`: computations in a row.
* `Still.discreet`: a computation that changes neither coroutines nor the ambient state is quiet, leaves
  the ambient state alone, and goes the same way whatever error is set.
-/

namespace CoroutineEngine

variable {L : Language} {α β : Type}

/-! ## Definitions -/

/-- A record that differs at most in its handles and its names. There may be more handles, but none of a
coroutine that was torn down. -/
structure CoroutineRecord.Resembles (r r' : CoroutineRecord L) : Prop where
  same : r' = { r with handles := r'.handles, name := r'.name, qualname := r'.qualname }
  handles : r.handles ≤ r'.handles
  dead : r.handles = 0 → r'.handles = 0

/-- A coroutine that was built and never resumed. -/
structure CoroutineRecord.Newborn (r : CoroutineRecord L) : Prop where
  status : r.status = .unused
  running : r.running = false
  finalized : r.finalized = false
  fiber : r.fiber = none
  pending : r.pending = none
  frame : r.frame = none
  awaiting : r.awaiting = none
  handled : r.handled = none
  released : r.released = false
  history : r.history = .new r.inputs.parameters r.inputs.closure

/-- The record of an instance later on: it has the same arguments, and the cause and the context that were
attached to it. -/
structure ExceptionRecord.Persists (r r' : ExceptionRecord) : Prop where
  args : r'.args = r.args
  cause : r.cause ≠ none → r'.cause = r.cause
  context : r.context ≠ none → r'.context = r.context

/-- The ambient state can be used, and its hook owns nothing. -/
structure World.Orderly (w : World L) : Prop where
  borrowed : w.ambient.borrowed = false
  hook : ∀ h, w.ambient.hook = some h → h.owned = []

/-- The coroutine has been built. -/
def World.Has (w : World L) (i : CoroutineId) : Prop := i.index < w.coroutines.size

/-- The books of the registry are right: it has counted every coroutine and every wrapper that was built,
enrolls no coroutine that was not, and enrolls a wrapper as long as it has a handle. -/
structure World.Ledger (w : World L) : Prop where
  orderly : w.registry.Orderly
  total : w.registry.totalTracked = w.coroutines.size + w.wrappers.size + w.registry.guests
  built : ∀ c : CoroutineId, .coroutine c ∈ w.registry.objects → w.Has c
  wrappers : ∀ x : WrapperId, .wrapper x ∈ w.registry.objects ↔ 0 < (w.wrapper x).handles
  foreign : ∀ n, .foreign n ∈ w.registry.objects → 0 < w.registry.guests

/-- The hook that is installed, and the hooks that were asked for so far. -/
def Ambient.hooks (a : Ambient L) : Option (Hook L) × List (Option (Hook L)) := (a.hook, a.asked)

/-- Between two states, the hook that was last asked for is installed, or the same one if none was. -/
def Ambient.Obeys (a a' : Ambient L) : Prop :=
  ∃ calls, a'.asked = calls ++ a.asked ∧ a'.hook = calls.headD a.hook

/-- Between two worlds, no object was lost: instances, codes, wrappers and coroutines are still there, and
what was not enrolled with the registry is not enrolled now. -/
structure Grown (w w' : World L) : Prop where
  size : w.exceptions.size ≤ w'.exceptions.size
  exceptions : ∀ e : Exception, e.index < w.exceptions.size →
    (w.exception e).Persists (w'.exception e)
  programs : ∀ (n : Nat) (p : L.Script), w.programs[n]? = some p → w'.programs[n]? = some p
  wrapperCount : w.wrappers.size ≤ w'.wrappers.size
  wrappers : ∀ x : WrapperId, x.index < w.wrappers.size →
    (w'.wrapper x).coroutine = (w.wrapper x).coroutine
  count : w.coroutines.size ≤ w'.coroutines.size
  nodup : w.registry.objects.Nodup → w'.registry.objects.Nodup
  withdrawn : ∀ c : CoroutineId, c.index < w.coroutines.size →
    .coroutine c ∈ w'.registry.objects → .coroutine c ∈ w.registry.objects

/-- Between two worlds, the coroutines that existed have kept all but handles and names, and those that
did not are new. -/
structure Undisturbed (w w' : World L) : Prop extends Grown w w' where
  old : ∀ i : CoroutineId, i.index < w.coroutines.size → (w.coroutine i).Resembles (w'.coroutine i)
  new : ∀ i : CoroutineId, w.coroutines.size ≤ i.index → i.index < w'.coroutines.size →
    (w'.coroutine i).Newborn ∧ 0 < (w'.coroutine i).handles
  orderly : w.Orderly → w'.Orderly

/-- Between two worlds, no object was lost, no coroutine was withdrawn from the registry, and its books
stayed right. -/
structure Sustained (w w' : World L) : Prop extends Grown w w' where
  enrolled : ∀ c : CoroutineId, .coroutine c ∈ w.registry.objects → .coroutine c ∈ w'.registry.objects
  ledger : w.Ledger → w'.Ledger

/-- Between two worlds, coroutines were left in peace, new ones are enrolled with the registry, and the
hook is the one that was last asked for. -/
structure Peaceful (w w' : World L) : Prop extends Undisturbed w w', Sustained w w' where
  enlisted : ∀ i : CoroutineId, ¬ w.Has i → w'.Has i → .coroutine i ∈ w'.registry.objects
  obeys : w.ambient.Obeys w'.ambient

/-- The world in which another error is set and another exception is handled. -/
def World.withErrors (w : World L) (error : Option PendingException) (handled : Option Exception) :
    World L :=
  { w with ambient := { w.ambient with error, handled } }

/-- A part of the world that does not depend on which error is set and which exception is handled. -/
def Unbiased (f : World L → α) : Prop := ∀ w error handled, f (w.withErrors error handled) = f w

/-- A computation that goes the same way whatever error is set and whatever exception is handled. -/
def Blind (x : Effect L α) : Prop :=
  ∀ w error handled,
    x (w.withErrors error handled) = ((x w).1, (x w).2.withErrors error handled)

/-- A computation that leaves coroutines in peace, whatever becomes of the registry and the hook. -/
def Harmless (x : Effect L α) : Prop := ∀ w, Undisturbed w (x w).2

/-- A computation that leaves coroutines in peace. -/
def Quiet (x : Effect L α) : Prop := ∀ w, Peaceful w (x w).2

/-- A computation that has nothing to do with the ambient state. -/
def Aloof (x : Effect L α) : Prop := ∀ w, (x w).2.ambient = w.ambient

/-- A computation that leaves coroutines in peace and has nothing to do with the ambient state. -/
structure Discreet (x : Effect L α) : Prop where
  quiet : Quiet x
  aloof : Aloof x
  blind : Blind x

/-- A computation that changes neither coroutines nor the ambient state, and may withdraw them from the
registry. -/
structure Mild (x : Effect L α) : Prop where
  coroutines : ∀ w, (x w).2.coroutines = w.coroutines
  aloof : Aloof x
  grown : ∀ w, Grown w (x w).2
  blind : Blind x

/-- A computation that changes neither coroutines nor the ambient state. -/
structure Still (x : Effect L α) : Prop where
  coroutines : ∀ w, (x w).2.coroutines = w.coroutines
  aloof : Aloof x
  sustained : ∀ w, Sustained w (x w).2
  blind : Blind x

/-- What computations about coroutines and instances speak of. -/
def World.core (w : World L) :
    Table (CoroutineRecord L) × Ambient L × Table ExceptionRecord × Array L.Script ×
      Table WrapperRecord × Registry :=
  (w.coroutines, w.ambient, w.exceptions, w.programs, w.wrappers, w.registry)

/-! ## Helpers -/

namespace CoroutineRecord

theorem Resembles.refl (r : CoroutineRecord L) : r.Resembles r := ⟨rfl, Nat.le_refl _, id⟩

theorem Resembles.trans {r r' r'' : CoroutineRecord L} (h : r.Resembles r')
    (h' : r'.Resembles r'') : r.Resembles r'' := by
  refine ⟨?_, Nat.le_trans h.handles h'.handles, h'.dead ∘ h.dead⟩
  rw [h'.same, h.same]

theorem Resembles.newborn {r r' : CoroutineRecord L} (h : r.Resembles r') (hr : r.Newborn) :
    r'.Newborn := by
  rw [h.same]
  exact { hr with }

end CoroutineRecord

theorem World.coroutine_eq_default {w : World L} {i : CoroutineId}
    (h : w.coroutines.size ≤ i.index) : w.coroutine i = default := Table.get_of_size_le _ h

/-- The record of an existing coroutine after a change. -/
theorem modified_of_has {w : World L} {i : CoroutineId} (hi : w.Has i)
    (f : CoroutineRecord L → CoroutineRecord L) :
    (w.modifyCoroutine i f).Has i ∧ (w.modifyCoroutine i f).coroutine i = f (w.coroutine i) :=
  ⟨by simpa [World.Has, World.modifyCoroutine] using hi, Table.get_modify_self _ f hi⟩

/-- A change of the record of another coroutine. -/
theorem modified_other (w : World L) {i j : CoroutineId} (hj : j ≠ i)
    (f : CoroutineRecord L → CoroutineRecord L) :
    ((w.modifyCoroutine j f).Has i ↔ w.Has i) ∧
      (w.modifyCoroutine j f).coroutine i = w.coroutine i := by
  have hne : i.index ≠ j.index := fun he => hj (by cases i; cases j; simp_all)
  exact ⟨by simp [World.Has, World.modifyCoroutine], Table.get_modify_ne _ _ hne⟩

/-- The record of an existing wrapper after a change. -/
theorem modifyWrapper_self (w : World L) {x : WrapperId} (f : WrapperRecord → WrapperRecord)
    (hx : x.index < w.wrappers.size) : (w.modifyWrapper x f).wrapper x = f (w.wrapper x) :=
  Table.get_modify_self _ f hx

/-- A change of the record of another wrapper. -/
theorem modifyWrapper_other (w : World L) {x x' : WrapperId} (f : WrapperRecord → WrapperRecord)
    (hx : x'.index ≠ x.index) : (w.modifyWrapper x f).wrapper x' = w.wrapper x' :=
  Table.get_modify_ne _ f hx

/-- Changing a wrapper that was not built changes nothing. -/
theorem modifyWrapper_absent {w : World L} {x : WrapperId} (f : WrapperRecord → WrapperRecord)
    (hx : w.wrappers.size ≤ x.index) : w.modifyWrapper x f = w := by
  rw [World.modifyWrapper, Table.modify_of_size_le _ _ hx]

/-- Changing a coroutine that was not built changes nothing. -/
theorem modifyCoroutine_absent {w : World L} {i : CoroutineId} (hi : ¬ w.Has i)
    (f : CoroutineRecord L → CoroutineRecord L) : w.modifyCoroutine i f = w := by
  rw [World.modifyCoroutine, Table.modify_of_size_le _ _ (Nat.le_of_not_lt hi)]

theorem CoroutineRecord.newborn_default : (default : CoroutineRecord L).Newborn :=
  ⟨rfl, rfl, rfl, rfl, rfl, rfl, rfl, rfl, rfl, rfl⟩

namespace ExceptionRecord

theorem Persists.refl (r : ExceptionRecord) : r.Persists r := ⟨rfl, fun _ => rfl, fun _ => rfl⟩

theorem Persists.trans {r r' r'' : ExceptionRecord} (h : r.Persists r') (h' : r'.Persists r'') :
    r.Persists r'' := by
  refine ⟨h'.args.trans h.args, fun hc => ?_, fun hc => ?_⟩
  · exact (h'.cause (by rw [h.cause hc]; exact hc)).trans (h.cause hc)
  · exact (h'.context (by rw [h.context hc]; exact hc)).trans (h.context hc)

end ExceptionRecord

namespace Grown

variable {w v u : World L}

theorem refl (w : World L) : Grown w w where
  size := Nat.le_refl _
  exceptions _ _ := .refl _
  programs _ _ h := h
  wrapperCount := Nat.le_refl _
  wrappers _ _ := rfl
  count := Nat.le_refl _
  nodup h := h
  withdrawn _ _ h := h

theorem trans (h : Grown w v) (h' : Grown v u) : Grown w u where
  size := Nat.le_trans h.size h'.size
  exceptions e he := (h.exceptions e he).trans (h'.exceptions e (Nat.lt_of_lt_of_le he h.size))
  programs n p hp := h'.programs n p (h.programs n p hp)
  wrapperCount := Nat.le_trans h.wrapperCount h'.wrapperCount
  wrappers x hx := (h'.wrappers x (Nat.lt_of_lt_of_le hx h.wrapperCount)).trans (h.wrappers x hx)
  count := Nat.le_trans h.count h'.count
  nodup := h'.nodup ∘ h.nodup
  withdrawn c hc hm := h.withdrawn c hc (h'.withdrawn c (Nat.lt_of_lt_of_le hc h.count) hm)

theorem of_fields (hc : v.coroutines = w.coroutines) (he : v.exceptions = w.exceptions)
    (hp : v.programs = w.programs) (hx : v.wrappers = w.wrappers) (hr : v.registry = w.registry) :
    Grown w v := by
  constructor <;>
    simp [hc, he, hp, hx, hr, World.exception, World.wrapper, ExceptionRecord.Persists.refl]

/-- Where nothing of the core has changed. -/
theorem of_core (h : v.core = w.core) : Grown w v :=
  of_fields (congrArg Prod.fst h) (congrArg (fun c => c.2.2.1) h)
    (congrArg (fun c => c.2.2.2.1) h) (congrArg (fun c => c.2.2.2.2.1) h)
    (congrArg (fun c => c.2.2.2.2.2) h)

/-- A change of an instance that spares its arguments and what is attached to it. -/
theorem modifyException (w : World L) (e : Exception) {f : ExceptionRecord → ExceptionRecord}
    (hf : (w.exception e).Persists (f (w.exception e))) : Grown w (w.modifyException e f) := by
  refine { refl w with size := by simp [World.modifyException], exceptions := fun e' he => ?_ }
  by_cases hi : e'.index = e.index
  · have hee : e' = ⟨e.index, e'.cls⟩ := by cases e'; simp_all
    simp only [World.exception, World.modifyException, hi] at he hf ⊢
    rw [Table.get_modify_self _ _ he]
    exact hf
  · simp only [World.exception, World.modifyException]
    rw [Table.get_modify_ne _ _ hi]
    exact .refl _

/-- A new instance. -/
theorem pushException (w : World L) (r : ExceptionRecord) :
    Grown w { w with exceptions := w.exceptions.push r } := by
  refine { refl w with size := by simp, exceptions := fun e he => ?_ }
  simp only [World.exception]
  rw [Table.get_push_lt _ _ he]
  exact .refl _

/-- A new code. -/
theorem pushProgram (w : World L) (p : L.Script) :
    Grown w { w with programs := w.programs.push p } := by
  refine { refl w with programs := fun n p' h => ?_ }
  have hn : n < w.programs.size := (Array.getElem?_eq_some_iff.mp h).1
  rw [Array.getElem?_push_lt hn]
  exact (Array.getElem?_eq_getElem hn).symm.trans h

/-- A new wrapper. -/
theorem pushWrapper (w : World L) (r : WrapperRecord) :
    Grown w { w with wrappers := w.wrappers.push r } := by
  refine { refl w with wrapperCount := by simp, wrappers := fun x hx => ?_ }
  simp only [World.wrapper]
  rw [Table.get_push_lt _ _ hx]

/-- A change of a wrapper that spares its coroutine. -/
theorem modifyWrapper (w : World L) (x : WrapperId) {f : WrapperRecord → WrapperRecord}
    (hf : ∀ r : WrapperRecord, (f r).coroutine = r.coroutine) : Grown w (w.modifyWrapper x f) := by
  refine { refl w with wrapperCount := by simp [World.modifyWrapper], wrappers := fun x' hx => ?_ }
  by_cases hi : x'.index = x.index
  · have he : x' = x := by cases x; cases x'; simp_all
    subst he
    rw [modifyWrapper_self w f hx]
    exact hf _
  · rw [modifyWrapper_other w f hi]

/-- An enrolment of something else than a coroutine. -/
theorem track (w : World L) {id : TrackedId} (hid : ∀ c, id ≠ .coroutine c) :
    Grown w { w with registry := w.registry.track id } :=
  { refl w with
    nodup := Registry.nodup_track id
    withdrawn := fun c _ hm => (Registry.mem_track.mp hm).resolve_left fun h => hid c h.symm }

theorem untrack (w : World L) (id : TrackedId) :
    Grown w { w with registry := w.registry.untrack id } :=
  { refl w with
    nodup := Registry.nodup_untrack id
    withdrawn := fun _ _ hm => Registry.mem_of_mem_untrack hm }

/-- Changes of the record of a coroutine, and of the ambient state. -/
theorem modifyCoroutine (w : World L) (c : CoroutineId) (f : CoroutineRecord L → CoroutineRecord L) :
    Grown w (w.modifyCoroutine c f) := by
  refine { refl w with count := by simp [World.modifyCoroutine] }

end Grown

/-- The books are right when a coroutine is withdrawn. -/
theorem World.Ledger.withdraw {w : World L} (h : w.Ledger) (c : CoroutineId) :
    { w with registry := w.registry.untrack (.coroutine c) }.Ledger where
  orderly := h.orderly.untrack _
  total := h.total
  built c hm := h.built c (Registry.mem_of_mem_untrack hm)
  wrappers x := Iff.trans ⟨Registry.mem_of_mem_untrack, Registry.mem_untrack_of_ne nofun⟩
    (h.wrappers x)
  foreign n hm := h.foreign n (Registry.mem_of_mem_untrack hm)

namespace Sustained

variable {w v u : World L}

theorem refl (w : World L) : Sustained w w := ⟨.refl w, fun _ h => h, id⟩

theorem trans (h : Sustained w v) (h' : Sustained v u) : Sustained w u :=
  ⟨h.toGrown.trans h'.toGrown, fun c hm => h'.enrolled c (h.enrolled c hm), h'.ledger ∘ h.ledger⟩

/-- Where nothing has changed that the registry speaks of. -/
theorem of_grown (h : Grown w v) (hc : v.coroutines.size = w.coroutines.size)
    (hx : v.wrappers = w.wrappers) (hr : v.registry = w.registry) : Sustained w v := by
  refine ⟨h, fun c hm => hr ▸ hm, fun hl => ?_⟩
  refine ⟨hr ▸ hl.orderly, ?_, fun c hm => ?_, fun x => ?_, fun n hm => ?_⟩
  · rw [hr, hc, hx]
    exact hl.total
  · exact Nat.lt_of_lt_of_le (hl.built c (hr ▸ hm)) (Nat.le_of_eq hc.symm)
  · rw [hr, World.wrapper, hx]
    exact hl.wrappers x
  · rw [hr] at hm ⊢
    exact hl.foreign n hm

/-- Where nothing of the core has changed. -/
theorem of_core (h : v.core = w.core) : Sustained w v :=
  of_grown (.of_core h) (congrArg (fun c => c.1.size) h) (congrArg (fun c => c.2.2.2.2.1) h)
    (congrArg (fun c => c.2.2.2.2.2) h)

theorem modifyException (w : World L) (e : Exception) {f : ExceptionRecord → ExceptionRecord}
    (hf : (w.exception e).Persists (f (w.exception e))) : Sustained w (w.modifyException e f) :=
  .of_grown (.modifyException w e hf) rfl rfl rfl

theorem pushException (w : World L) (r : ExceptionRecord) :
    Sustained w { w with exceptions := w.exceptions.push r } :=
  .of_grown (.pushException w r) rfl rfl rfl

theorem pushProgram (w : World L) (p : L.Script) :
    Sustained w { w with programs := w.programs.push p } :=
  .of_grown (.pushProgram w p) rfl rfl rfl

theorem modifyCoroutine (w : World L) (c : CoroutineId) (f : CoroutineRecord L → CoroutineRecord L) :
    Sustained w (w.modifyCoroutine c f) :=
  .of_grown (.modifyCoroutine w c f) (Table.size_modify _ _ _) rfl rfl

theorem ambient (w : World L) (a : Ambient L) : Sustained w { w with ambient := a } :=
  .of_grown (.of_fields rfl rfl rfl rfl rfl) rfl rfl rfl

/-- An enrolment by a client. -/
theorem trackForeign (w : World L) (n : Int) :
    Sustained w { w with registry := w.registry.track (.foreign n) } := by
  refine ⟨.track w nofun, fun c hm => Registry.mem_track.mpr (.inr hm), fun hl => ?_⟩
  have hold {id : TrackedId} (hm : id ∈ (w.registry.track (.foreign n)).objects)
      (hid : id ≠ .foreign n) : id ∈ w.registry.objects := (Registry.mem_track.mp hm).resolve_left hid
  by_cases hn : .foreign n ∈ w.registry.objects
  · have hsame : w.registry.track (.foreign n) = w.registry := by
      rw [Registry.track, if_pos (Registry.isTracked_iff.mpr hn), ← hl.orderly.tracked]
    rw [hsame]
    exact hl
  · obtain ⟨htotal, hguests⟩ := Registry.totalTracked_track hn
    refine ⟨hl.orderly.track _, ?_, fun c hm => hl.built c (hold hm nofun),
      fun x => Iff.trans ⟨fun hm => hold hm nofun, fun hm => Registry.mem_track.mpr (.inr hm)⟩
        (hl.wrappers x), fun _ _ => ?_⟩
    · show (w.registry.track _).totalTracked = _ + _ + (w.registry.track _).guests
      rw [htotal, hguests, hl.total]
      rfl
    · show 0 < (w.registry.track _).guests
      rw [hguests]
      exact Nat.succ_pos _

/-- A withdrawal by a client. -/
theorem untrackForeign (w : World L) (n : Int) :
    Sustained w { w with registry := w.registry.untrack (.foreign n) } where
  toGrown := .untrack w _
  enrolled _ hm := Registry.mem_untrack_of_ne nofun hm
  ledger hl :=
    { orderly := hl.orderly.untrack _
      total := hl.total
      built := fun c hm => hl.built c (Registry.mem_of_mem_untrack hm)
      wrappers := fun x => Iff.trans
        ⟨Registry.mem_of_mem_untrack, Registry.mem_untrack_of_ne nofun⟩ (hl.wrappers x)
      foreign := fun n hm => hl.foreign n (Registry.mem_of_mem_untrack hm) }

/-- A new wrapper, which is enrolled with the registry. -/
theorem enlistWrapper (w : World L) {r : WrapperRecord} (hr : 0 < r.handles) :
    Sustained w
      { w with
        wrappers := w.wrappers.push r
        registry := w.registry.track (.wrapper ⟨w.wrappers.size⟩) } := by
  refine ⟨(Grown.pushWrapper w r).trans (.track _ nofun),
    fun c hm => Registry.mem_track.mpr (.inr hm), fun hl => ?_⟩
  have habsent : (.wrapper ⟨w.wrappers.size⟩ : TrackedId) ∉ w.registry.objects := fun hm => by
    have hp := (hl.wrappers _).mp hm
    rw [World.wrapper, Table.get_of_size_le _ (Nat.le_refl _)] at hp
    exact Nat.lt_irrefl 0 hp
  have hold {id : TrackedId} (hm : id ∈ (w.registry.track (.wrapper ⟨w.wrappers.size⟩)).objects)
      (hid : id ≠ .wrapper ⟨w.wrappers.size⟩) : id ∈ w.registry.objects :=
    (Registry.mem_track.mp hm).resolve_left hid
  obtain ⟨htotal, hguests⟩ := Registry.totalTracked_track habsent
  refine ⟨hl.orderly.track _, ?_, fun c hm => hl.built c (hold hm nofun), fun x => ?_,
    fun n hm => ?_⟩
  · have ht := hl.total
    simp only [htotal, hguests, Table.size_push, TrackedId.isForeign, Bool.false_eq_true, if_false]
    omega
  · show _ ↔ 0 < (Table.get (w.wrappers.push r) x.index).handles
    by_cases hx : x.index = w.wrappers.size
    · have he : x = ⟨w.wrappers.size⟩ := by cases x; simp_all
      subst he
      rw [Table.get_push_self]
      exact ⟨fun _ => hr, fun _ => Registry.mem_track.mpr (.inl rfl)⟩
    · have hne : (.wrapper x : TrackedId) ≠ .wrapper ⟨w.wrappers.size⟩ := fun he =>
        hx (congrArg WrapperId.index (TrackedId.wrapper.inj he))
      rw [Table.get_push_ne _ _ hx]
      exact Iff.trans ⟨fun hm => hold hm hne, fun hm => Registry.mem_track.mpr (.inr hm)⟩
        (hl.wrappers x)
  · show 0 < (w.registry.track _).guests
    rw [hguests]
    exact hl.foreign n (hold hm nofun)

/-- A change of a wrapper, after which it has a handle just if it had one. -/
theorem modifyWrapper (w : World L) (x : WrapperId) {f : WrapperRecord → WrapperRecord}
    (hf : ∀ r : WrapperRecord, (f r).coroutine = r.coroutine)
    (hh : 0 < (f (w.wrapper x)).handles ↔ 0 < (w.wrapper x).handles) :
    Sustained w (w.modifyWrapper x f) where
  toGrown := .modifyWrapper w x hf
  enrolled _ h := h
  ledger hl :=
    { orderly := hl.orderly
      total := by simpa [World.modifyWrapper] using hl.total
      built := hl.built
      wrappers := fun x' => by
        refine (hl.wrappers x').trans ?_
        by_cases hx : x'.index = x.index
        · have he : x' = x := by cases x; cases x'; simp_all
          subst he
          rcases Nat.lt_or_ge x'.index w.wrappers.size with hi | hi
          · rw [modifyWrapper_self w f hi]
            exact hh.symm
          · rw [modifyWrapper_absent f hi]
        · rw [modifyWrapper_other w f hx]
      foreign := hl.foreign }

/-- A wrapper gives its last handle up and is withdrawn from the registry. -/
theorem withdrawWrapper (w : World L) (x : WrapperId) {f : WrapperRecord → WrapperRecord}
    (hf : ∀ r : WrapperRecord, (f r).coroutine = r.coroutine) (hh : (f (w.wrapper x)).handles = 0) :
    Sustained w { w.modifyWrapper x f with registry := w.registry.untrack (.wrapper x) } where
  toGrown := (Grown.modifyWrapper w x hf).trans (.untrack _ _)
  enrolled c hm := Registry.mem_untrack_of_ne nofun hm
  ledger hl :=
    { orderly := hl.orderly.untrack _
      total := by simpa [World.modifyWrapper, Registry.untrack] using hl.total
      built := fun c hm => hl.built c (Registry.mem_of_mem_untrack hm)
      wrappers := fun x' => by
        refine (Registry.mem_untrack hl.orderly.nodup).trans ?_
        show _ ↔ 0 < ((w.modifyWrapper x f).wrapper x').handles
        by_cases hx : x'.index = x.index
        · have he : x' = x := by cases x; cases x'; simp_all
          subst he
          refine ⟨fun h => absurd rfl h.1, fun hp => absurd hp ?_⟩
          rcases Nat.lt_or_ge x'.index w.wrappers.size with hi | hi
          · rw [modifyWrapper_self w f hi, hh]
            exact Nat.lt_irrefl 0
          · rw [modifyWrapper_absent f hi, World.wrapper, Table.get_of_size_le _ hi]
            exact Nat.lt_irrefl 0
        · have hne : (.wrapper x' : TrackedId) ≠ .wrapper x := fun he =>
            hx (congrArg WrapperId.index (TrackedId.wrapper.inj he))
          rw [modifyWrapper_other w f hx]
          exact ⟨fun h => (hl.wrappers x').mp h.2, fun h => ⟨hne, (hl.wrappers x').mpr h⟩⟩
      foreign := fun n hm => hl.foreign n (Registry.mem_of_mem_untrack hm) }

end Sustained

namespace Undisturbed

variable {w v u : World L}

theorem of_still (hc : v.coroutines = w.coroutines) (ha : v.ambient = w.ambient) (hg : Grown w v) :
    Undisturbed w v where
  toGrown := hg
  old i _ := by
    rw [World.coroutine, World.coroutine, hc]
    exact .refl _
  new i h h' := by
    rw [hc] at h'
    exact absurd h' (Nat.not_lt.mpr h)
  orderly h := ⟨by rw [ha]; exact h.borrowed, by rw [ha]; exact h.hook⟩

theorem refl (w : World L) : Undisturbed w w := .of_still rfl rfl (.refl w)

/-- A withdrawal, even of a coroutine. -/
theorem untrack (w : World L) (id : TrackedId) :
    Undisturbed w { w with registry := w.registry.untrack id } :=
  .of_still (w := w) (v := { w with registry := w.registry.untrack id }) rfl rfl (.untrack w id)

theorem trans (h : Undisturbed w v) (h' : Undisturbed v u) : Undisturbed w u where
  toGrown := h.toGrown.trans h'.toGrown
  old i hi := (h.old i hi).trans (h'.old i (Nat.lt_of_lt_of_le hi h.count))
  new i hi hi' := by
    rcases Nat.lt_or_ge i.index v.coroutines.size with hv | hv
    · have ho := h'.old i hv
      obtain ⟨hnew, hpos⟩ := h.new i hi hv
      exact ⟨ho.newborn hnew, Nat.lt_of_lt_of_le hpos ho.handles⟩
    · exact h'.new i hv hi'
  orderly := h'.orderly ∘ h.orderly

/-- A change of one record that spares all but handles and names. -/
theorem modifyCoroutine (w : World L) (c : CoroutineId)
    {f : CoroutineRecord L → CoroutineRecord L} (hf : ∀ r : CoroutineRecord L, r.Resembles (f r)) :
    Undisturbed w (w.modifyCoroutine c f) := by
  refine ⟨.modifyCoroutine w c f, ?_, ?_, fun h => ⟨h.borrowed, h.hook⟩⟩
  · intro i hi
    by_cases he : i.index = c.index
    · simp only [World.coroutine, World.modifyCoroutine, he] at hi ⊢
      rw [Table.get_modify_self _ _ hi]
      exact hf _
    · simp only [World.coroutine, World.modifyCoroutine]
      rw [Table.get_modify_ne _ _ he]
      exact .refl _
  · intro i hi hi'
    simp only [World.modifyCoroutine, Table.size_modify] at hi'
    exact absurd hi' (Nat.not_lt.mpr hi)

/-- A new coroutine, which is enrolled with the registry. -/
theorem build (w : World L) {r : CoroutineRecord L} (hr : r.Newborn) (hpos : 0 < r.handles) :
    Undisturbed w
      { w with
        coroutines := w.coroutines.push r
        registry := w.registry.track (.coroutine ⟨w.coroutines.size⟩) } := by
  refine ⟨?_, ?_, ?_, fun h => ⟨h.borrowed, h.hook⟩⟩
  · refine
      { Grown.refl w with
        count := by simp
        nodup := Registry.nodup_track _
        withdrawn := fun c hc hm => (Registry.mem_track.mp hm).resolve_left fun h => ?_ }
    rw [TrackedId.coroutine.inj h] at hc
    exact absurd hc (Nat.lt_irrefl _)
  · intro i hi
    simp only [World.coroutine]
    rw [Table.get_push_lt _ _ hi]
    exact .refl _
  · intro i hi hi'
    simp only [Table.size_push] at hi'
    have he : i.index = w.coroutines.size := by omega
    simp only [World.coroutine, he]
    rw [Table.get_push_self]
    exact ⟨hr, hpos⟩

/-- A change of the ambient state that keeps it usable. -/
theorem ambient (w : World L) (a : Ambient L) (h : w.Orderly → { w with ambient := a }.Orderly) :
    Undisturbed w { w with ambient := a } where
  toGrown := .of_fields rfl rfl rfl rfl rfl
  old _ _ := .refl _
  new _ h h' := absurd h' (Nat.not_lt.mpr h)
  orderly := h

end Undisturbed

namespace Ambient.Obeys

variable {a a' a'' : Ambient L}

theorem of_hooks (h : a'.hooks = a.hooks) : a.Obeys a' :=
  ⟨[], congrArg Prod.snd h, congrArg Prod.fst h⟩

theorem refl (a : Ambient L) : a.Obeys a := of_hooks rfl

theorem trans (h : a.Obeys a') (h' : a'.Obeys a'') : a.Obeys a'' := by
  obtain ⟨calls, hasked, hhook⟩ := h
  obtain ⟨calls', hasked', hhook'⟩ := h'
  refine ⟨calls' ++ calls, by rw [hasked', hasked, List.append_assoc], ?_⟩
  cases calls' with
  | nil => exact hhook'.trans hhook
  | cons last _ => exact hhook'

end Ambient.Obeys

namespace Peaceful

variable {w v u : World L}

theorem of_still (hc : v.coroutines = w.coroutines) (ha : v.ambient = w.ambient)
    (hg : Sustained w v) : Peaceful w v where
  toUndisturbed := .of_still hc ha hg.toGrown
  enrolled := hg.enrolled
  ledger := hg.ledger
  enlisted i hi hi' := by
    rw [World.Has, hc] at hi'
    exact absurd hi' hi
  obeys := ha ▸ .refl _

theorem refl (w : World L) : Peaceful w w := .of_still rfl rfl (.refl w)

theorem trans (h : Peaceful w v) (h' : Peaceful v u) : Peaceful w u where
  toUndisturbed := h.toUndisturbed.trans h'.toUndisturbed
  enrolled c hm := h'.enrolled c (h.enrolled c hm)
  ledger := h'.ledger ∘ h.ledger
  enlisted i hi hi' := by
    by_cases hv : v.Has i
    · exact h'.enrolled i (h.enlisted i hi hv)
    · exact h'.enlisted i hv hi'
  obeys := h.obeys.trans h'.obeys

/-- A change of one record that spares all but handles and names. -/
theorem modifyCoroutine (w : World L) (c : CoroutineId)
    {f : CoroutineRecord L → CoroutineRecord L} (hf : ∀ r : CoroutineRecord L, r.Resembles (f r)) :
    Peaceful w (w.modifyCoroutine c f) where
  toUndisturbed := .modifyCoroutine w c hf
  enrolled _ h := h
  ledger := (Sustained.modifyCoroutine w c f).ledger
  enlisted i hi hi' := by
    rw [World.Has, World.modifyCoroutine, Table.size_modify] at hi'
    exact absurd hi' hi
  obeys := .refl _

/-- A new coroutine, which is enrolled with the registry. -/
theorem build (w : World L) {r : CoroutineRecord L} (hr : r.Newborn) (hpos : 0 < r.handles) :
    Peaceful w
      { w with
        coroutines := w.coroutines.push r
        registry := w.registry.track (.coroutine ⟨w.coroutines.size⟩) } := by
  refine ⟨.build w hr hpos, fun c hm => Registry.mem_track.mpr (.inr hm), fun hl => ?_,
    fun i hi hi' => ?_, .refl _⟩
  · have habsent : (.coroutine ⟨w.coroutines.size⟩ : TrackedId) ∉ w.registry.objects := fun hm =>
      Nat.lt_irrefl _ (hl.built _ hm)
    have hold {id : TrackedId} (hm : id ∈ (w.registry.track (.coroutine ⟨w.coroutines.size⟩)).objects)
        (hid : id ≠ .coroutine ⟨w.coroutines.size⟩) : id ∈ w.registry.objects :=
      (Registry.mem_track.mp hm).resolve_left hid
    obtain ⟨htotal, hguests⟩ := Registry.totalTracked_track habsent
    refine ⟨hl.orderly.track _, ?_, fun c hm => ?_, fun x => ?_, fun n hm => ?_⟩
    · have ht := hl.total
      simp only [htotal, hguests, Table.size_push, TrackedId.isForeign, Bool.false_eq_true, if_false]
      omega
    · rw [World.Has, Table.size_push]
      rcases Registry.mem_track.mp hm with he | hm
      · rw [TrackedId.coroutine.inj he]
        exact Nat.lt_succ_self _
      · exact Nat.lt_succ_of_lt (hl.built c hm)
    · exact Iff.trans ⟨fun hm => hold hm nofun, fun hm => Registry.mem_track.mpr (.inr hm)⟩
        (hl.wrappers x)
    · show 0 < (w.registry.track _).guests
      rw [hguests]
      exact hl.foreign n (hold hm nofun)
  · rw [World.Has, Table.size_push] at hi'
    have hindex : i.index = w.coroutines.size :=
      Nat.le_antisymm (Nat.le_of_lt_succ hi') (Nat.le_of_not_lt hi)
    have he : i = ⟨w.coroutines.size⟩ := by cases i; exact congrArg _ hindex
    exact Registry.mem_track.mpr (.inl (congrArg _ he))

/-- A change of the ambient state that keeps it usable. -/
theorem ambient (w : World L) (a : Ambient L) (h : w.Orderly → { w with ambient := a }.Orderly)
    (ha : w.ambient.Obeys a) : Peaceful w { w with ambient := a } where
  toUndisturbed := .ambient w a h
  enrolled _ h := h
  ledger := (Sustained.ambient w a).ledger
  enlisted _ hi hi' := absurd hi' hi
  obeys := ha

end Peaceful

/-! ### Composed computations -/

theorem Quiet.pure (a : α) : Quiet (pure a : Effect L α) := fun w => .refl w

theorem Quiet.gets (f : World L → α) : Quiet (.gets f) := fun w => .refl w

theorem Quiet.bind {x : Effect L α} {f : α → Effect L β} (hx : Quiet x) (hf : ∀ a, Quiet (f a)) :
    Quiet (x >>= f) := by
  intro w
  have h := hx w
  simp only [Effect.bind_apply]
  rcases hw : x w with ⟨a | m | _, v⟩ <;> rw [hw] at h
  · exact h.trans (hf a v)
  · exact h
  · exact h

theorem Aloof.pure (a : α) : Aloof (pure a : Effect L α) := fun _ => rfl

theorem Aloof.gets (f : World L → α) : Aloof (.gets f) := fun _ => rfl

theorem Aloof.bind {x : Effect L α} {f : α → Effect L β} (hx : Aloof x) (hf : ∀ a, Aloof (f a)) :
    Aloof (x >>= f) := by
  intro w
  have h := hx w
  simp only [Effect.bind_apply]
  rcases hw : x w with ⟨a | m | _, v⟩ <;> rw [hw] at h
  · exact (hf a v).trans h
  · exact h
  · exact h

theorem Blind.pure (a : α) : Blind (pure a : Effect L α) := fun _ _ _ => rfl

theorem Blind.gets {f : World L → α} (hf : Unbiased f) : Blind (.gets f) := by
  intro w error handled
  simp only [Effect.gets_apply, hf w error handled]

theorem Blind.bind {x : Effect L α} {f : α → Effect L β} (hx : Blind x) (hf : ∀ a, Blind (f a)) :
    Blind (x >>= f) := by
  intro w error handled
  simp only [Effect.bind_apply, hx w error handled]
  rcases x w with ⟨a | m | _, v⟩
  · exact hf a v error handled
  · rfl
  · rfl

theorem Discreet.pure (a : α) : Discreet (pure a : Effect L α) := ⟨.pure a, .pure a, .pure a⟩

theorem Discreet.bind {x : Effect L α} {f : α → Effect L β} (hx : Discreet x)
    (hf : ∀ a, Discreet (f a)) : Discreet (x >>= f) :=
  ⟨hx.quiet.bind fun a => (hf a).quiet, hx.aloof.bind fun a => (hf a).aloof,
    hx.blind.bind fun a => (hf a).blind⟩

theorem Quiet.harmless {x : Effect L α} (hx : Quiet x) : Harmless x := fun w => (hx w).toUndisturbed

theorem Mild.harmless {x : Effect L α} (hx : Mild x) : Harmless x := fun w =>
  .of_still (hx.coroutines w) (hx.aloof w) (hx.grown w)

theorem Mild.bind {x : Effect L α} {f : α → Effect L β} (hx : Mild x) (hf : ∀ a, Mild (f a)) :
    Mild (x >>= f) := by
  refine ⟨fun w => ?_, hx.aloof.bind fun a => (hf a).aloof, fun w => ?_,
    hx.blind.bind fun a => (hf a).blind⟩
  · have h := hx.coroutines w
    simp only [Effect.bind_apply]
    rcases hw : x w with ⟨a | m | _, v⟩ <;> rw [hw] at h
    · exact ((hf a).coroutines v).trans h
    · exact h
    · exact h
  · have h := hx.grown w
    simp only [Effect.bind_apply]
    rcases hw : x w with ⟨a | m | _, v⟩ <;> rw [hw] at h
    · exact h.trans ((hf a).grown v)
    · exact h
    · exact h

namespace Still

theorem mild {x : Effect L α} (hx : Still x) : Mild x :=
  ⟨hx.coroutines, hx.aloof, fun w => (hx.sustained w).toGrown, hx.blind⟩

theorem pure (a : α) : Still (pure a : Effect L α) :=
  ⟨fun _ => rfl, .pure a, fun w => .refl w, .pure a⟩

/-- Reading a part of the world that does not depend on the error that is set. -/
theorem reads {f : World L → α} (hf : Unbiased f) : Still (.gets f) :=
  ⟨fun _ => rfl, .gets f, fun w => .refl w, .gets hf⟩

theorem bind {x : Effect L α} {f : α → Effect L β} (hx : Still x) (hf : ∀ a, Still (f a)) :
    Still (x >>= f) := by
  have hmild := hx.mild.bind fun a => (hf a).mild
  refine ⟨hmild.coroutines, hmild.aloof, fun w => ?_, hmild.blind⟩
  have h := hx.sustained w
  simp only [Effect.bind_apply]
  rcases hw : x w with ⟨a | m | _, v⟩ <;> rw [hw] at h
  · exact h.trans ((hf a).sustained v)
  · exact h
  · exact h

/-- A computation that changes nothing of the core. -/
theorem plain {x : Effect L α} (h : ∀ w, (x w).2.core = w.core) (hb : Blind x) : Still x :=
  ⟨fun w => congrArg Prod.fst (h w), fun w => congrArg (fun c => c.2.1) (h w),
    fun w => .of_core (h w), hb⟩

theorem quiet {x : Effect L α} (hx : Still x) : Quiet x := fun w =>
  .of_still (hx.coroutines w) (hx.aloof w) (hx.sustained w)

theorem discreet {x : Effect L α} (hx : Still x) : Discreet x := ⟨hx.quiet, hx.aloof, hx.blind⟩

end Still

theorem Quiet.modify {f : World L → World L} (h : ∀ w, Peaceful w (f w)) :
    Quiet (.modify f) := h

/-- A use of the ambient state that neither borrows it nor installs a hook. -/
theorem Quiet.withAmbient {f : Ambient L → α × Ambient L}
    (hb : ∀ a, (f a).2.borrowed = a.borrowed) (hh : ∀ a, (f a).2.hooks = a.hooks) :
    Quiet (withAmbient f) := by
  intro w
  unfold CoroutineEngine.withAmbient
  split
  · exact .refl w
  · refine .ambient w _ (fun h => ⟨(hb _).trans h.borrowed, fun k hk => h.hook k ?_⟩) (.of_hooks (hh _))
    exact (congrArg Prod.fst (hh w.ambient)).symm.trans hk

end CoroutineEngine
