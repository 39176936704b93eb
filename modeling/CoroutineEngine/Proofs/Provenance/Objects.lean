import CoroutineEngine.Report.Rendering
import CoroutineEngine.World.Ambience
import CoroutineEngine.Proofs.Provenance.Inventory

/-!
# Making and changing objects forges nothing

What is made is put on the list, and what is read was there before.

Results:
* `World.Genuine.modifyException`, `World.Genuine.modifyCell`, `World.Genuine.modifyCoroutine`: changes that keep
  a world genuine.
* `Honest.makeText`, `Honest.makeTuple`, `Honest.makeException`: what is made is listed.
* `Honest.withAmbient`: the ambient state is exchanged for a genuine one.
-/

namespace CoroutineEngine

variable {L : Language}

/-! ## Genuine worlds -/

theorem Table.forall_push {α : Type} [Inhabited α] {P : Nat → α → Prop} {t : Table α} {a : α}
    (h : ∀ i, P i (t.get i)) (ha : P t.size a) (i : Nat) : P i ((t.push a).get i) := by
  by_cases hi : i = t.size
  · subst hi
    rwa [Table.get_push_self]
  · rw [Table.get_push_ne t a hi]
    exact h i

theorem Table.forall_modify {α : Type} [Inhabited α] {P : Nat → α → Prop} {t : Table α} {j : Nat} {f : α → α}
    (h : ∀ i, P i (t.get i)) (hf : P j (t.get j) → P j (f (t.get j))) (i : Nat) : P i ((t.modify j f).get i) := by
  by_cases hi : i = j
  · subst hi
    rcases Nat.lt_or_ge i t.size with hs | hs
    · rw [Table.get_modify_self t f hs]
      exact hf (h i)
    · rw [Table.modify_of_size_le t f hs]
      exact h i
  · rw [Table.get_modify_ne t f hi]
    exact h i

/-- What it depends on whether a world is genuine. -/
def World.parts (w : World L) :=
  (w.serial, w.tuples.size, w.exceptions, w.cells, w.coroutines, w.frames, w.ambient, w.slots)

namespace World.Genuine

variable {ι κ : Inventory} {w v : World L}

theorem congr (hw : w.Genuine ι) (h : v.parts = w.parts) : v.Genuine ι := by
  simp only [World.parts, Prod.mk.injEq] at h
  obtain ⟨hserial, htuples, hexceptions, hcells, hcoroutines, hframes, hambient, hslots⟩ := h
  constructor
  · rw [hserial, hw.serial]
  · rw [htuples, hw.tuples]
  · rw [hexceptions, hw.exceptions]
  · rw [hexceptions]
    exact hw.arguments
  · rw [hexceptions]
    exact hw.chained
  · rw [hcells]
    exact hw.contents
  · rw [hcoroutines]
    exact hw.coroutines
  · rw [hframes]
    exact hw.backs
  · rw [hambient]
    exact hw.ambient
  · rw [hslots]
    exact hw.slots

/-- The arguments of an exception that was never made are none. -/
theorem args (hw : w.Genuine ι) (e : Exception) : CoroutineEngine.Genuine ι (w.exception e).args := by
  rcases Nat.lt_or_ge e.index w.exceptions.size with he | he
  · have hι : (ι.before e.index).Grows ι :=
      ⟨List.prefix_rfl, List.prefix_rfl, by rw [← hw.exceptions]; exact Nat.le_of_lt he⟩
    exact (hw.arguments e.index).mono hι
  · rw [World.exception, Table.get_of_size_le _ he]
    exact genuine_nil

theorem owned (hw : w.Genuine ι) (e : Exception) : CoroutineEngine.Genuine ι (w.exception e).owned := by
  have hchained := hw.chained e.index
  refine genuine_append.mpr ⟨genuine_append.mpr ⟨hw.args e, ?_⟩, ?_⟩
  · exact genuine_map (f := Value.exception) (fun _ h => h) (genuine_toList hchained.1)
  · exact genuine_map (f := Value.exception) (fun _ h => h) (genuine_toList hchained.2)

/-- Under an inventory that has grown, the world is as it was up to what was added. -/
theorem grown (hw : w.Genuine ι) (h : ι.Grows κ) (serial : v.serial = κ.texts.length)
    (tuples : v.tuples.size = κ.tuples.length) (exceptions : κ.exceptions = ι.exceptions)
    (same : (v.exceptions, v.cells, v.coroutines, v.frames, v.ambient, v.slots) =
      (w.exceptions, w.cells, w.coroutines, w.frames, w.ambient, w.slots)) : v.Genuine κ := by
  simp only [Prod.mk.injEq] at same
  obtain ⟨hexceptions, hcells, hcoroutines, hframes, hambient, hslots⟩ := same
  constructor
  · exact serial
  · exact tuples
  · rw [hexceptions, hw.exceptions, exceptions]
  · rw [hexceptions]
    exact fun i => (hw.arguments i).mono (h.before i)
  · rw [hexceptions]
    exact fun i => (hw.chained i).mono h
  · rw [hcells]
    exact fun i => (hw.contents i).mono h
  · rw [hcoroutines]
    exact fun i => (hw.coroutines i).mono h
  · rw [hframes]
    exact fun i => (hw.backs i).mono h
  · rw [hambient]
    exact hw.ambient.mono h
  · rw [hslots]
    exact hw.slots.mono h

theorem modifyException (hw : w.Genuine ι) (e : Exception) {f : ExceptionRecord → ExceptionRecord}
    (hargs : ∀ r, (f r).args = r.args)
    (hchained : ∀ r : ExceptionRecord, CoroutineEngine.Genuine ι (r.cause, r.context) →
      CoroutineEngine.Genuine ι ((f r).cause, (f r).context)) : (w.modifyException e f).Genuine ι := by
  refine { hw with exceptions := ?_, arguments := ?_, chained := ?_ }
  · exact (Table.size_modify _ _ _).trans hw.exceptions
  · refine Table.forall_modify (P := fun i (r : ExceptionRecord) => CoroutineEngine.Genuine (ι.before i) r.args)
      hw.arguments fun h => ?_
    rwa [hargs]
  · exact Table.forall_modify (P := fun _ (r : ExceptionRecord) => CoroutineEngine.Genuine ι (r.cause, r.context))
      hw.chained (hchained _)

theorem modifyCell (hw : w.Genuine ι) (c : CellId) {f : CellRecord → CellRecord}
    (hf : ∀ r : CellRecord, CoroutineEngine.Genuine ι r.content → CoroutineEngine.Genuine ι (f r).content) :
    (w.modifyCell c f).Genuine ι :=
  { hw with contents :=
      Table.forall_modify (P := fun _ (r : CellRecord) => CoroutineEngine.Genuine ι r.content) hw.contents (hf _) }

theorem modifyCoroutine (hw : w.Genuine ι) (c : CoroutineId) {f : CoroutineRecord L → CoroutineRecord L}
    (hf : CoroutineEngine.Genuine ι (w.coroutine c) → CoroutineEngine.Genuine ι (f (w.coroutine c))) :
    (w.modifyCoroutine c f).Genuine ι :=
  { hw with coroutines := Table.forall_modify hw.coroutines hf }

theorem modifyFrame (hw : w.Genuine ι) (f : Frame) {g : FrameRecord → FrameRecord}
    (hg : ∀ r : FrameRecord, CoroutineEngine.Genuine ι r.back → CoroutineEngine.Genuine ι (g r).back) :
    (w.modifyFrame f g).Genuine ι :=
  { hw with backs :=
      Table.forall_modify (P := fun _ (r : FrameRecord) => CoroutineEngine.Genuine ι r.back) hw.backs (hg _) }

theorem retain (hw : w.Genuine ι) (v : Value) : (w.retain v).Genuine ι := by
  cases v with
  | tuple i items => exact { hw with tuples := (Table.size_modify _ _ _).trans hw.tuples }
  | exception e => exact hw.modifyException e (fun _ => rfl) fun _ h => h
  | cell c => exact hw.modifyCell c fun _ h => h
  | coroutine c => exact hw.modifyCoroutine c fun h => { h with }
  | wrapper x => exact { hw with }
  | _ => exact hw

end World.Genuine

namespace Honest

variable {α : Type} [Certified α] {ι : Inventory}

/-- What changes nothing that matters. -/
theorem aside {f : World L → World L} (hf : ∀ w, (f w).parts = w.parts) : Honest ι (.modify f) :=
  .modify fun w hw => hw.congr (hf w)

/-! ## Handles -/

theorem retain (v : Value) : Honest ι (CoroutineEngine.retain v : Effect L Unit) := .modify fun _ hw => hw.retain v

theorem retainAll (vs : List Value) : Honest ι (CoroutineEngine.retainAll vs : Effect L Unit) := by
  induction vs generalizing ι with
  | nil => exact .pure trivial
  | cons v vs ih => exact .next (retain v) fun _ _ _ => ih

theorem recordOf (c : CoroutineId) : Honest ι (CoroutineEngine.recordOf c : Effect L _) :=
  .gets fun _ hw => hw.coroutines c.index

theorem modifyCoroutine (c : CoroutineId) {f : CoroutineRecord L → CoroutineRecord L}
    (hf : ∀ r : CoroutineRecord L, Genuine ι r → Genuine ι (f r)) : Honest ι (CoroutineEngine.modifyCoroutine c f) :=
  .modify fun _ hw => hw.modifyCoroutine c (hf _)

theorem updateCoroutine (c : CoroutineId) {f : CoroutineRecord L → α × CoroutineRecord L}
    (hf : ∀ r : CoroutineRecord L, Genuine ι r → Genuine ι (f r)) : Honest ι (CoroutineEngine.updateCoroutine c f) :=
  .modifyGet fun _ hw =>
    have h := hf _ (hw.coroutines c.index)
    ⟨ι, .refl ι, hw.modifyCoroutine c fun _ => h.2, h.1⟩

/-! ## Fresh objects -/

theorem freshIdentity : Honest ι (CoroutineEngine.freshIdentity : Effect L Nat) :=
  .modifyGet fun w hw =>
    ⟨ι.addText "", ι.grows_addText "",
      hw.grown (ι.grows_addText "") (by simp [Inventory.addText, hw.serial]) hw.tuples rfl rfl, trivial⟩

theorem makeText (s : String) : Honest ι (CoroutineEngine.makeText s : Effect L Text) := by
  constructor
  intro w hw
  refine ⟨ι.addText s, ι.grows_addText s, ?_, ?_⟩
  · exact hw.grown (ι.grows_addText s) (by simp [Inventory.addText, hw.serial]) hw.tuples rfl rfl
  · show (ι.texts ++ [s])[w.serial]? = some s
    rw [hw.serial, List.getElem?_concat_length]

theorem makeString (s : String) : Honest ι (CoroutineEngine.makeString s : Effect L Value) :=
  .next (makeText s) fun _ _ ht => .pure ht

theorem makeTuple {items : List Value} (hi : Genuine ι items) :
    Honest ι (CoroutineEngine.makeTuple items : Effect L Value) := by
  refine .modifyGet fun w hw => ⟨ι.addTuple items, ι.grows_addTuple items, ?_, ?_, ?_⟩
  · refine hw.grown (ι.grows_addTuple items) hw.serial ?_ rfl rfl
    simp [Inventory.addTuple, hw.tuples]
  · show (ι.tuples ++ [items])[w.tuples.size]? = some items
    rw [hw.tuples, List.getElem?_concat_length]
  · exact Value.areGenuine_iff.mpr (hi.mono (ι.grows_addTuple items))

theorem makeException (cls : ExceptionClass) {args : List Value} (ha : Genuine ι args) :
    Honest ι (CoroutineEngine.makeException cls args : Effect L Exception) := by
  refine .modifyGet fun w hw => ⟨ι.addException, ι.grows_addException, ?_, ?_⟩
  · have h := ι.grows_addException
    -- the arguments are older than the instance, whose index is the number of instances so far
    have hold : ι.before ι.exceptions = ι := rfl
    constructor
    · exact hw.serial
    · exact hw.tuples
    · simp [Inventory.addException, hw.exceptions]
    · refine Table.forall_push (P := fun i (r : ExceptionRecord) => Genuine (ι.addException.before i) r.args)
        (fun i => (hw.arguments i).mono (h.before i)) ?_
      show CoroutineEngine.Genuine (ι.addException.before w.exceptions.size) args
      rw [hw.exceptions]
      exact ha
    · exact Table.forall_push (P := fun _ (r : ExceptionRecord) => Genuine ι.addException (r.cause, r.context))
        (fun i => (hw.chained i).mono h) ⟨genuine_none, genuine_none⟩
    · exact fun i => (hw.contents i).mono h
    · exact fun i => (hw.coroutines i).mono h
    · exact fun i => (hw.backs i).mono h
    · exact hw.ambient.mono h
    · exact hw.slots.mono h
  · show w.exceptions.size < ι.exceptions + 1
    rw [hw.exceptions]
    exact Nat.lt_succ_self _

theorem makeError (cls : ExceptionClass) (message : String) :
    Honest ι (CoroutineEngine.makeError cls message : Effect L Exception) :=
  .next (makeString message) fun _ _ hv => makeException cls (by simpa using hv)

theorem raise (error : CoroutineError) : Honest ι (error.raise : Effect L Exception) := makeError _ _

theorem makeStopIteration {v : Value} (hv : Genuine ι v) :
    Honest ι (CoroutineEngine.makeStopIteration v : Effect L Exception) := by
  refine makeException _ ?_
  split
  · exact genuine_nil
  · simpa using hv

theorem makeCell {content : Option Value} (hc : Genuine ι content) :
    Honest ι (CoroutineEngine.makeCell content : Effect L CellId) :=
  .modifyGet fun _ hw =>
    have h := Table.forall_push (P := fun _ (r : CellRecord) => Genuine ι r.content) (a := { handles := 1, content })
      hw.contents hc
    ⟨ι, .refl ι, { hw with contents := h }, trivial⟩

theorem makeFrame {code : Code} (hc : Genuine ι code) :
    Honest ι (CoroutineEngine.makeFrame code : Effect L Frame) :=
  .modifyGet fun _ hw =>
    have h := Table.forall_push (P := fun _ (r : FrameRecord) => Genuine ι r.back)
      (a := { line := code.firstLine, back := none }) hw.backs genuine_none
    ⟨ι, .refl ι, { hw with backs := h }, hc⟩

theorem makeCode (spec : CodeSpec L.Script) : Honest ι (CoroutineEngine.makeCode spec : Effect L Code) := by
  refine .next (makeText _) fun ι name hname => ?_
  refine .bind hname (makeText _) fun ι hname qualname hqualname => ?_
  exact .modifyGet fun _ hw => ⟨ι, .refl ι, { hw with }, hname, hqualname⟩

theorem makeClass (name : String) (base : ExceptionClass) :
    Honest ι (CoroutineEngine.makeClass name base : Effect L ExceptionClass) :=
  .next freshIdentity fun _ _ _ => .pure trivial

theorem makeTraceback (entries : List (String × UInt32)) :
    Honest ι (CoroutineEngine.makeTraceback entries : Effect L (Option Traceback)) := by
  induction entries generalizing ι with
  | nil => exact .pure genuine_none
  | cons e rest ih => exact .next ih fun _ _ _ => .next freshIdentity fun _ _ _ => .pure (by simp)

/-! ## Exceptions -/

theorem attachCause (e : Exception) {cause : Exception} (hc : Genuine ι cause) :
    Honest ι (CoroutineEngine.attachCause e cause : Effect L (Option Exception)) := by
  refine .modifyGet fun w hw => ⟨ι, .refl ι, ?_⟩
  split
  · exact ⟨hw.modifyException e (fun _ => rfl) fun _ h => ⟨genuine_some.mpr hc, h.2⟩, genuine_none⟩
  · exact ⟨hw.modifyException e (fun _ => rfl) fun _ h => h, genuine_some.mpr hc⟩

theorem attachContext (e : Exception) {context : Exception} (hc : Genuine ι context) :
    Honest ι (CoroutineEngine.attachContext e context : Effect L (Option Exception)) := by
  refine .modifyGet fun w hw => ⟨ι, .refl ι, ?_⟩
  split
  · exact ⟨hw.modifyException e (fun _ => rfl) fun _ h => ⟨h.1, genuine_some.mpr hc⟩, genuine_none⟩
  · exact ⟨hw, genuine_some.mpr hc⟩

theorem setTraceback (e : Exception) (t : Option Traceback) :
    Honest ι (CoroutineEngine.setTraceback e t : Effect L Unit) :=
  .modify fun _ hw => hw.modifyException e (fun _ => rfl) fun _ h => h

theorem pushTraceback (e : Exception) (f : Frame) :
    Honest ι (CoroutineEngine.pushTraceback e f : Effect L Unit) :=
  .next freshIdentity fun _ _ _ => .modify fun _ hw => hw.modifyException e (fun _ => rfl) fun _ h => h

theorem stopValue (e : Exception) : Honest ι (CoroutineEngine.stopValue e : Effect L Value) := by
  refine .next (.gets fun w hw => ?_) fun _ v hv => .bind hv (retain v) fun _ hv _ _ => .pure hv
  have hargs := hw.args e
  cases h : (w.exception e).args with
  | nil => exact trivial
  | cons v vs => exact hargs v (h ▸ List.mem_cons_self)

theorem pendingOf {e : Exception} (he : Genuine ι e) :
    Honest ι (CoroutineEngine.pendingOf e : Effect L PendingException) :=
  .gets fun _ _ => genuine_some.mpr he

theorem instantiate {p : PendingException} (hp : Genuine ι p) : Honest ι (p.instantiate : Effect L Exception) := by
  -- the traceback of the triple becomes the instance's
  have finish {ι : Inventory} {e : Exception} (he : Genuine ι e) : Honest ι (do
      if p.traceback.isSome then
        CoroutineEngine.setTraceback e p.traceback
      return e : Effect L Exception) := by
    split
    · exact .bind he (setTraceback e _) fun _ he _ _ => .pure he
    · exact .pure he
  unfold PendingException.instantiate
  cases h : p.value with
  | none => exact .next (makeException _ genuine_nil) fun _ _ he => finish he
  | some e => exact finish (hp e h)

/-! ## Events and the registry -/

theorem rendered (text : World L → Option String) : Honest ι (CoroutineEngine.rendered text) := by
  refine rendering fun w => ?_
  unfold CoroutineEngine.rendered
  split <;> rfl

theorem emit (event : Event) : Honest ι (CoroutineEngine.emit event : Effect L Unit) := .aside fun _ => rfl

theorem log (level : LogLevel) (message : String) (fields : List (String × Datum)) :
    Honest ι (CoroutineEngine.log level message fields : Effect L Unit) := by
  refine .aside fun w => ?_
  split
  · split <;> rfl
  · rfl

theorem logCoroutine (level : LogLevel) (message : String) (c : CoroutineId) (fields : List (String × Datum)) :
    Honest ι (CoroutineEngine.logCoroutine level message c fields : Effect L Unit) :=
  next (gets (α := String) fun _ _ => trivial) fun _ _ _ => log _ _ _

theorem trackObject (id : TrackedId) (kind : String) :
    Honest ι (CoroutineEngine.trackObject id kind : Effect L Unit) :=
  .next (.aside fun _ => rfl) fun _ _ _ => log _ _ _

theorem untrackObject (id : TrackedId) : Honest ι (CoroutineEngine.untrackObject id : Effect L Bool) :=
  .next (.modifyGet fun _ hw => ⟨ι, .refl ι, { hw with }, genuine_plain⟩) fun _ _ _ =>
    .next (log _ _ _) fun _ _ _ => .pure genuine_plain

/-! ## The ambient state -/

theorem withAmbient {f : Ambient L → α × Ambient L} (hf : ∀ a : Ambient L, Genuine ι a → Genuine ι (f a)) :
    Honest ι (CoroutineEngine.withAmbient f) := by
  constructor
  intro w hw
  refine ⟨?_⟩
  unfold CoroutineEngine.withAmbient
  split
  · exact ⟨ι, .refl ι, hw⟩
  · have h := hf _ hw.ambient
    exact ⟨ι, .refl ι, { hw with ambient := h.2 }, h.1⟩

theorem fetchError : Honest ι (CoroutineEngine.fetchError : Effect L (Option PendingException)) :=
  withAmbient fun _ ha => ⟨ha.error, { ha with error := genuine_none }⟩

theorem swapError {error : Option PendingException} (he : Genuine ι error) :
    Honest ι (CoroutineEngine.swapError error : Effect L (Option PendingException)) :=
  withAmbient fun _ ha => ⟨ha.error, { ha with error := he }⟩

theorem errorOccurred : Honest ι (CoroutineEngine.errorOccurred : Effect L Bool) :=
  withAmbient fun _ ha => ⟨genuine_plain, ha⟩

theorem currentError : Honest ι (CoroutineEngine.currentError : Effect L (Option PendingException)) := by
  refine .next (withAmbient fun _ ha => ⟨ha.error, ha⟩) fun ι error he => ?_
  cases error with
  | none => exact .pure he
  | some p => exact .bind he (retainAll p.owned) fun _ he _ _ => .pure he

theorem handledException : Honest ι (CoroutineEngine.handledException : Effect L (Option Exception)) := by
  refine .next (withAmbient fun _ ha => ⟨ha.handled, ha⟩) fun ι handled he => ?_
  cases handled with
  | none => exact .pure he
  | some e => exact .bind he (retain (.exception e)) fun _ he _ _ => .pure he

theorem swapHandled {handled : Option Exception} (he : Genuine ι handled) :
    Honest ι (CoroutineEngine.swapHandled handled : Effect L (Option Exception)) :=
  withAmbient fun _ ha => ⟨ha.handled, { ha with handled := he }⟩

theorem currentFrame : Honest ι (CoroutineEngine.currentFrame : Effect L (Option Frame)) :=
  withAmbient fun _ ha => ⟨ha.top, ha⟩

theorem swapTop {top : Option Frame} (ht : Genuine ι top) :
    Honest ι (CoroutineEngine.swapTop top : Effect L (Option Frame)) :=
  withAmbient fun _ ha => ⟨ha.top, { ha with top := ht }⟩

theorem swapBack (f : Frame) {back : Option Frame} (hb : Genuine ι back) :
    Honest ι (CoroutineEngine.swapBack f back : Effect L (Option Frame)) :=
  .modifyGet fun _ hw => ⟨ι, .refl ι, hw.modifyFrame f fun _ _ => hb, hw.backs f.index⟩

theorem pushFrame {code : Code} (hc : Genuine ι code) :
    Honest ι (CoroutineEngine.pushFrame code : Effect L Frame) := by
  refine .next (makeFrame hc) fun ι frame hf => ?_
  refine .bind hf currentFrame fun ι hf top ht => ?_
  refine .bind hf (swapBack frame ht) fun ι hf _ _ => ?_
  exact .bind hf (swapTop (genuine_some.mpr hf)) fun _ hf _ _ => .pure hf

theorem popFrame : Honest ι (CoroutineEngine.popFrame : Effect L (Option Frame)) := by
  refine .next currentFrame fun ι top ht => ?_
  cases top with
  | none => exact .pure genuine_none
  | some top =>
    refine .bind ht (swapBack top genuine_none) fun ι ht caller hc => ?_
    exact .bind ht (swapTop hc) fun _ ht _ _ => .pure ht

theorem swapHook {hook : Option (Hook L)} (hh : Genuine ι hook) : Honest ι (CoroutineEngine.swapHook hook) :=
  withAmbient fun _ ha => ⟨ha.hook, { ha with hook := hh }⟩

theorem takeHook : Honest ι (CoroutineEngine.takeHook : Effect L (Option (Hook L))) :=
  withAmbient fun _ ha => ⟨ha.hook, { ha with hook := genuine_none }⟩

theorem reinstallHook {hook : Hook L} (hh : Genuine ι hook) :
    Honest ι (CoroutineEngine.reinstallHook hook : Effect L (Option (Hook L))) := by
  refine withAmbient fun a ha => ?_
  split
  · exact ⟨genuine_none, { ha with hook := genuine_some.mpr hh }⟩
  · exact ⟨genuine_some.mpr hh, ha⟩

theorem whileBorrowed {a : α} (ha : Genuine ι a) {x : Effect L Unit} (hx : ∀ ι, Genuine ι a → Honest ι x) :
    Honest ι (CoroutineEngine.whileBorrowed x) := by
  refine .bind ha (.modify fun _ hw => { hw with ambient := { hw.ambient with } }) fun ι ha _ _ => ?_
  exact .andFinally (k := ()) trivial (hx ι ha) fun _ _ =>
    .modify fun _ hw => { hw with ambient := { hw.ambient with } }

end Honest

end CoroutineEngine
