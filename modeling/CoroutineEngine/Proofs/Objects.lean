import CoroutineEngine.Proofs.Outcomes
import CoroutineEngine.Proofs.Quiet

/-!
# What the primitives of the engine leave in peace

Making objects, taking handles, noting events and using the ambient state: each primitive is quiet, and
most of them change neither coroutines nor the ambient state.

Results:
* `makeException_still`, `surface_sure` and the like: what holds of each primitive.
* `makeCoroutine_quiet`: building a coroutine disturbs no other one.
-/

namespace CoroutineEngine

variable {L : Language} {α β : Type}

/-! ## Definitions -/

/-- A computation that gives a result and changes neither coroutines nor the ambient state. -/
def Sure (x : Effect L α) : Prop := Mild x ∧ ∀ w, ∃ a, (x w).1 = .ok a

/-! ## Helpers -/

/-! ### Making objects -/

theorem freshIdentity_still : Still (freshIdentity : Effect L Nat) :=
  .plain (fun _ => rfl) fun _ _ _ => rfl

theorem makeText_still (s : String) : Still (makeText s : Effect L Text) :=
  .bind freshIdentity_still fun _ => .pure _

theorem makeString_still (s : String) : Still (makeString s : Effect L Value) :=
  .bind (makeText_still s) fun _ => .pure _

theorem makeTuple_still (items : List Value) : Still (makeTuple items : Effect L Value) :=
  .plain (fun _ => rfl) fun _ _ _ => rfl

theorem makeException_still (cls : ExceptionClass) (args : List Value) :
    Still (makeException cls args : Effect L Exception) :=
  ⟨fun _ => rfl, fun _ => rfl, fun w => .pushException w _, fun _ _ _ => rfl⟩

theorem makeError_still (cls : ExceptionClass) (message : String) :
    Still (makeError cls message : Effect L Exception) :=
  .bind (makeString_still _) fun _ => makeException_still _ _

theorem raise_still (error : CoroutineError) : Still (error.raise : Effect L Exception) :=
  makeError_still _ _

theorem makeStopIteration_still (v : Value) : Still (makeStopIteration v : Effect L Exception) :=
  makeException_still _ _

theorem makeCell_still (content : Option Value) : Still (makeCell content : Effect L CellId) :=
  .plain (fun _ => rfl) fun _ _ _ => rfl

theorem makeFrame_still (code : Code) : Still (makeFrame code : Effect L Frame) :=
  .plain (fun _ => rfl) fun _ _ _ => rfl

theorem makeCode_still (spec : CodeSpec L.Script) : Still (makeCode spec : Effect L Code) :=
  .bind (makeText_still _) fun _ => .bind (makeText_still _) fun _ =>
    ⟨fun _ => rfl, fun _ => rfl, fun w => .pushProgram w _, fun _ _ _ => rfl⟩

theorem makeClass_still (name : String) (base : ExceptionClass) :
    Still (makeClass name base : Effect L ExceptionClass) :=
  .bind freshIdentity_still fun _ => .pure _

theorem makeTraceback_still (entries : List (String × UInt32)) :
    Still (makeTraceback entries : Effect L (Option Traceback)) := by
  induction entries with
  | nil => exact .pure _
  | cons e rest ih => exact .bind ih fun _ => .bind freshIdentity_still fun _ => .pure _

theorem nestValue_still (n : Nat) (v : Value) : Still (nestValue n v : Effect L Value) := by
  induction n generalizing v with
  | zero => exact .pure _
  | succ n ih => exact .bind (makeTuple_still _) fun v => ih v

/-! ### Exceptions -/

/-- A change of an instance that spares its arguments and what is attached to it. -/
theorem modifyException_still (e : Exception) {f : ExceptionRecord → ExceptionRecord}
    (hf : ∀ r : ExceptionRecord, r.Persists (f r)) :
    Still (.modify (·.modifyException e f) : Effect L Unit) :=
  ⟨fun _ => rfl, fun _ => rfl, fun w => .modifyException w e (hf _), fun _ _ _ => rfl⟩

theorem attachCause_still (e cause : Exception) :
    Still (attachCause e cause : Effect L (Option Exception)) := by
  have changed (w : World L) :
      (attachCause e cause w).2.coroutines = w.coroutines ∧
        (attachCause e cause w).2.ambient = w.ambient ∧ Sustained w (attachCause e cause w).2 := by
    simp only [attachCause, Effect.modifyGet]
    split
    · rename_i hn
      exact ⟨rfl, rfl, .modifyException w e ⟨rfl, fun hc => absurd hn hc, fun _ => rfl⟩⟩
    · exact ⟨rfl, rfl, .modifyException w e ⟨rfl, fun _ => rfl, fun _ => rfl⟩⟩
  refine ⟨fun w => (changed w).1, fun w => (changed w).2.1, fun w => (changed w).2.2, ?_⟩
  intro w error handled
  have hsame : (w.withErrors error handled).exception e = w.exception e := rfl
  simp only [attachCause, Effect.modifyGet, hsame]
  split <;> rfl

theorem attachContext_still (e context : Exception) :
    Still (attachContext e context : Effect L (Option Exception)) := by
  have changed (w : World L) :
      (attachContext e context w).2.coroutines = w.coroutines ∧
        (attachContext e context w).2.ambient = w.ambient ∧
        Sustained w (attachContext e context w).2 := by
    simp only [attachContext, Effect.modifyGet]
    split
    · rename_i hn
      exact ⟨rfl, rfl, .modifyException w e ⟨rfl, fun _ => rfl, fun hc => absurd hn hc⟩⟩
    · exact ⟨rfl, rfl, .refl w⟩
  refine ⟨fun w => (changed w).1, fun w => (changed w).2.1, fun w => (changed w).2.2, ?_⟩
  intro w error handled
  have hsame : (w.withErrors error handled).exception e = w.exception e := rfl
  simp only [attachContext, Effect.modifyGet, hsame]
  split <;> rfl

theorem setTraceback_still (e : Exception) (t : Option Traceback) :
    Still (setTraceback e t : Effect L Unit) :=
  modifyException_still e fun _ => ⟨rfl, fun _ => rfl, fun _ => rfl⟩

theorem pushTraceback_still (e : Exception) (f : Frame) :
    Still (pushTraceback e f : Effect L Unit) :=
  .bind freshIdentity_still fun _ =>
    ⟨fun _ => rfl, fun _ => rfl,
      fun w => .modifyException w e ⟨rfl, fun _ => rfl, fun _ => rfl⟩, fun _ _ _ => rfl⟩

theorem pendingOf_still (e : Exception) : Still (pendingOf e : Effect L PendingException) :=
  .reads fun _ _ _ => rfl

theorem instantiate_still (p : PendingException) :
    Still (p.instantiate : Effect L Exception) := by
  have rest (e : Exception) :
      Still (do
        if p.traceback.isSome then
          setTraceback e p.traceback
        return e : Effect L Exception) := by
    split
    · exact .bind (setTraceback_still _ _) fun _ => .pure _
    · exact .pure _
  unfold PendingException.instantiate
  cases p.value with
  | some e => exact rest e
  | none => exact .bind (makeException_still _ _) rest

/-! ### Events -/

theorem emit_still (event : Event) : Still (emit event : Effect L Unit) :=
  .plain (fun _ => rfl) fun _ _ _ => rfl

theorem log_still (level : LogLevel) (message : String) (fields : List (String × Datum)) :
    Still (log level message fields : Effect L Unit) := by
  refine .plain (fun w => ?_) fun w error handled => ?_
  · simp only [log, Effect.modify]
    split
    · split <;> rfl
    · rfl
  · have hsame : (w.withErrors error handled).logLevel = w.logLevel := rfl
    simp only [log, Effect.modify, hsame]
    split
    · split <;> rfl
    · rfl

theorem logCoroutine_still (level : LogLevel) (message : String) (c : CoroutineId)
    (fields : List (String × Datum)) : Still (logCoroutine level message c fields : Effect L Unit) :=
  .bind (.reads fun _ _ _ => rfl) fun _ => log_still _ _ _

theorem trackForeign_still (n : Int) (kind : String) :
    Still (trackObject (.foreign n) kind : Effect L Unit) :=
  .bind ⟨fun _ => rfl, fun _ => rfl, fun w => .trackForeign w n, fun _ _ _ => rfl⟩ fun _ =>
    log_still _ _ _

/-- A withdrawal, even of a coroutine. -/
theorem untrackObject_mild (id : TrackedId) : Mild (untrackObject id : Effect L Bool) :=
  .bind ⟨fun _ => rfl, fun _ => rfl, fun w => .untrack w id, fun _ _ _ => rfl⟩ fun _ =>
    (Still.bind (log_still _ _ _) fun _ => .pure _).mild

theorem untrackForeign_still (n : Int) : Still (untrackObject (.foreign n) : Effect L Bool) :=
  .bind ⟨fun _ => rfl, fun _ => rfl, fun w => .untrackForeign w n, fun _ _ _ => rfl⟩ fun _ =>
    .bind (log_still _ _ _) fun _ => .pure _

/-- Looking at the world. -/
theorem rendered_apply (text : World L → Option String) (w : World L) :
    (rendered text w).2 = w := by
  unfold rendered
  split <;> rfl

theorem rendered_quiet (text : World L → Option String) : Quiet (rendered text) := fun w => by
  rw [rendered_apply]
  exact .refl w

theorem rendered_aloof (text : World L → Option String) : Aloof (rendered text) := fun w => by
  rw [rendered_apply]

theorem inspected_quiet (data : World L → Option Datum) : Quiet (inspected data) := by
  intro w
  unfold inspected
  split <;> exact .refl w

theorem pictureOf_quiet (v : Value) : Quiet (pictureOf v : Effect L Picture) := by
  intro w
  unfold pictureOf
  split <;> exact .refl w

theorem tick_still : Still (.tick : Effect L Unit) := by
  refine .plain (fun w => ?_) fun w error handled => ?_
  · unfold Effect.tick
    split <;> rfl
  · have hsame : (w.withErrors error handled).clock = w.clock := rfl
    simp only [Effect.tick, hsame]
    split <;> rfl

theorem panic_still (message : String) : Still (.panic message : Effect L α) :=
  .plain (fun _ => rfl) fun _ _ _ => rfl

/-! ### Handles -/

theorem CoroutineRecord.resembles_retained (r : CoroutineRecord L) : r.Resembles r.retained := by
  unfold CoroutineRecord.retained
  split
  · rename_i h
    exact ⟨rfl, Nat.le_of_eq h, fun _ => rfl⟩
  · rename_i h
    exact ⟨rfl, Nat.le_succ _, fun h' => absurd h' h⟩

theorem WrapperRecord.retained_handles (r : WrapperRecord) : 0 < r.retained.handles ↔ 0 < r.handles := by
  unfold WrapperRecord.retained
  split
  · exact .rfl
  · rename_i h
    exact ⟨fun _ => Nat.pos_of_ne_zero h, fun _ => Nat.succ_pos _⟩

theorem WrapperRecord.retained_coroutine (r : WrapperRecord) : r.retained.coroutine = r.coroutine := by
  unfold WrapperRecord.retained
  split <;> rfl

theorem retain_quiet (v : Value) : Quiet (retain v : Effect L Unit) := by
  intro w
  cases v with
  | coroutine c => exact .modifyCoroutine w c fun r => r.resembles_retained
  | exception e =>
    exact .of_still rfl rfl (.modifyException w e ⟨rfl, fun _ => rfl, fun _ => rfl⟩)
  | wrapper x =>
    exact .of_still rfl rfl
      (.modifyWrapper w x WrapperRecord.retained_coroutine (WrapperRecord.retained_handles _))
  | _ => exact .of_still rfl rfl (.of_core rfl)

theorem retain_discreet (v : Value) : Discreet (retain v : Effect L Unit) := by
  refine ⟨retain_quiet v, fun w => ?_, fun w error handled => ?_⟩ <;> cases v <;> rfl

theorem retainAll_discreet (vs : List Value) : Discreet (retainAll vs : Effect L Unit) := by
  induction vs with
  | nil => exact .pure _
  | cons v vs ih => exact .bind (retain_discreet v) fun _ => ih

theorem retainAll_quiet (vs : List Value) : Quiet (retainAll vs : Effect L Unit) :=
  (retainAll_discreet vs).quiet

theorem stopValue_quiet (e : Exception) : Quiet (stopValue e : Effect L Value) :=
  .bind (.gets _) fun _ => .bind (retain_quiet _) fun _ => .pure _

theorem readValue_quiet (read : World L → Option Value) : Quiet (readValue read) :=
  .bind (.gets _) fun _ => .bind (retain_quiet _) fun _ => .pure _

theorem propertyOf_quiet (v : Value) (name : String) :
    Quiet (propertyOf v name : Effect L Value) := by
  unfold propertyOf
  split
  · exact .bind (rendered_quiet _) fun _ => (makeString_still _).quiet
  · exact .bind (.gets _) fun _ => .bind (retain_quiet _) fun _ => .pure _

/-! ### The ambient state -/

theorem fetchError_quiet : Quiet (fetchError : Effect L _) :=
  .withAmbient (fun _ => rfl) fun _ => rfl

theorem swapError_quiet (p : Option PendingException) : Quiet (swapError p : Effect L _) :=
  .withAmbient (fun _ => rfl) fun _ => rfl

theorem errorOccurred_quiet : Quiet (errorOccurred : Effect L Bool) :=
  .withAmbient (fun _ => rfl) fun _ => rfl

theorem currentError_quiet : Quiet (currentError : Effect L _) := by
  refine .bind (.withAmbient (fun _ => rfl) fun _ => rfl) fun error => ?_
  cases error with
  | none => exact .pure _
  | some p => exact .bind (retainAll_quiet _) fun _ => .pure _

theorem handledException_quiet : Quiet (handledException : Effect L _) := by
  refine .bind (.withAmbient (fun _ => rfl) fun _ => rfl) fun handled => ?_
  cases handled with
  | none => exact .pure _
  | some e => exact .bind (retain_quiet _) fun _ => .pure _

theorem swapHandled_quiet (e : Option Exception) : Quiet (swapHandled e : Effect L _) :=
  .withAmbient (fun _ => rfl) fun _ => rfl

theorem currentFrame_quiet : Quiet (currentFrame : Effect L _) :=
  .withAmbient (fun _ => rfl) fun _ => rfl

theorem swapTop_quiet (f : Option Frame) : Quiet (swapTop f : Effect L _) :=
  .withAmbient (fun _ => rfl) fun _ => rfl

theorem swapBack_still (f : Frame) (back : Option Frame) : Still (swapBack f back : Effect L _) :=
  .plain (fun _ => rfl) fun _ _ _ => rfl

theorem pushFrame_quiet (code : Code) : Quiet (pushFrame code : Effect L Frame) :=
  .bind (makeFrame_still _).quiet fun _ => .bind currentFrame_quiet fun _ =>
    .bind (swapBack_still _ _).quiet fun _ => .bind (swapTop_quiet _) fun _ => .pure _

theorem popFrame_quiet : Quiet (popFrame : Effect L _) := by
  refine .bind currentFrame_quiet fun top => ?_
  cases top with
  | none => exact .pure _
  | some top =>
    exact .bind (swapBack_still _ _).quiet fun _ => .bind (swapTop_quiet _) fun _ => .pure _

/-- A hook that owns nothing may be installed. -/
theorem swapHook_quiet {hook : Option (Hook L)} (h : ∀ k, hook = some k → k.owned = []) :
    Quiet (swapHook hook) := by
  intro w
  unfold swapHook CoroutineEngine.withAmbient
  split
  · exact .refl w
  · exact .ambient w _ (fun ho => ⟨ho.borrowed, h⟩) ⟨[hook], rfl, rfl⟩

theorem hookOf?_owned (mode : String) {k : Hook L} (h : hookOf? L mode = some k) : k.owned = [] := by
  unfold hookOf? at h
  split at h
  · exact absurd h (by simp)
  · rw [← Option.some.inj h]

/-! ### Coroutines -/

theorem Blueprint.record_newborn (b : Blueprint) (settings : Settings) :
    (b.record settings : CoroutineRecord L).Newborn :=
  ⟨rfl, rfl, rfl, rfl, rfl, rfl, rfl, rfl, rfl, rfl⟩

theorem makeCoroutine_quiet (b : Blueprint) : Quiet (makeCoroutine b : Effect L CoroutineId) := by
  intro w
  let c : CoroutineId := ⟨w.coroutines.size⟩
  have rest : Quiet (do
      log .trace "gc track" [("kind", .text coroutineKind)]
      logCoroutine .debug "coroutine created" c []
      return c : Effect L CoroutineId) :=
    .bind (log_still _ _ _).quiet fun _ => .bind (logCoroutine_still _ _ _ _).quiet fun _ => .pure _
  exact (Peaceful.build w (b.record_newborn w.settings) Nat.one_pos).trans (rest _)

/-- A wrapper is enrolled as soon as it is built. -/
theorem makeWrapper_still (c : CoroutineId) : Still (makeWrapper c : Effect L WrapperId) := by
  let enlist : Effect L WrapperId := .modifyGet fun w =>
    (⟨w.wrappers.size⟩,
      { w with
        wrappers := w.wrappers.push ⟨1, c⟩
        registry := w.registry.track (.wrapper ⟨w.wrappers.size⟩) })
  have hmake : (makeWrapper c : Effect L WrapperId) =
      enlist >>= fun x => log .trace "gc track" [("kind", .text wrapperKind)] >>= fun _ => pure x := rfl
  rw [hmake]
  exact .bind ⟨fun _ => rfl, fun _ => rfl, fun w => .enlistWrapper w Nat.one_pos, fun _ _ _ => rfl⟩
    fun _ => .bind (log_still _ _ _) fun _ => .pure _

/-- A wrapper is withdrawn as soon as it has no handle. -/
theorem leaveWrapper_still (x : WrapperId) :
    Still (leaveWrapper x : Effect L (Nat × CoroutineId)) := by
  let leave : Effect L (Nat × CoroutineId × Bool) := .modifyGet fun w =>
    let left := (w.wrapper x).handles - 1
    let w' := w.modifyWrapper x fun r => { r with handles := left }
    ((left, (w.wrapper x).coroutine, w.registry.isTracked (.wrapper x)),
      if left = 0 then { w' with registry := w.registry.untrack (.wrapper x) } else w')
  have hleave : (leaveWrapper x : Effect L (Nat × CoroutineId)) = leave >>= fun p =>
      if p.1 = 0 then
        log .trace "gc untrack" [("removed", .bool p.2.2)] >>= fun _ => pure (p.1, p.2.1)
      else pure (p.1, p.2.1) := by
    funext w
    by_cases hlast : (w.wrapper x).handles - 1 = 0
    · simp only [leaveWrapper, leave, Effect.bind_apply, Effect.modifyGet, hlast, if_true]
      rfl
    · simp only [leaveWrapper, leave, Effect.bind_apply, Effect.modifyGet, if_neg hlast]
  rw [hleave]
  refine .bind ⟨fun w => ?_, fun w => ?_, fun w => ?_, fun w error handled => ?_⟩ fun p => ?_
  · simp only [leave, Effect.modifyGet]
    split <;> rfl
  · simp only [leave, Effect.modifyGet]
    split <;> rfl
  · simp only [leave, Effect.modifyGet]
    split
    · rename_i hlast
      exact .withdrawWrapper w x (fun _ => rfl) hlast
    · rename_i hmore
      exact .modifyWrapper w x (fun _ => rfl)
        ⟨fun h => Nat.lt_of_lt_of_le h (Nat.sub_le _ _), fun _ => Nat.pos_of_ne_zero hmore⟩
  · have hsame : (w.withErrors error handled).wrapper x = w.wrapper x := rfl
    by_cases hlast : (w.wrapper x).handles - 1 = 0
    · simp only [leave, Effect.modifyGet, hsame, if_pos hlast]
      rfl
    · simp only [leave, Effect.modifyGet, hsame, if_neg hlast]
      rfl
  · split
    · exact .bind (log_still _ _ _) fun _ => .pure _
    · exact .pure _

theorem makeText?_still (s : Option String) : Still (makeText? s : Effect L (Option Text)) := by
  cases s with
  | none => exact .pure _
  | some s => exact .bind (makeText_still s) fun _ => .pure _

theorem getAttribute_quiet (c : CoroutineId) (name : String) :
    Quiet (getAttribute c name : Effect L Reply) := by
  have read (v : Value) : Quiet (do retain v; return .ok v : Effect L Reply) :=
    .bind (retain_quiet v) fun _ => .pure _
  refine .bind (.gets _) fun r => ?_
  split <;> first | exact read _ | exact .bind (makeError_still _ _).quiet fun _ => .pure _

/-- Naming a coroutine. -/
theorem modifyCoroutine_quiet (c : CoroutineId) {f : CoroutineRecord L → CoroutineRecord L}
    (hf : ∀ r : CoroutineRecord L, r.Resembles (f r)) : Quiet (modifyCoroutine c f) :=
  fun w => .modifyCoroutine w c hf

/-! ### Counting fibers -/

theorem storeFiber_still (name : String) (f : Option CountingFiber) :
    Still (storeFiber name f : Effect L Unit) := .plain (fun _ => rfl) fun _ _ _ => rfl

theorem releaseStack_still (name : String) (f : CountingFiber) :
    Still (releaseStack name f : Effect L CountingFiber) := by
  unfold releaseStack
  split
  · exact .pure _
  · refine .bind (log_still _ _ _) fun _ => ?_
    split
    · exact .bind (emit_still _) fun _ => .pure _
    · exact .pure _

theorem dropFiber_still (name : String) : Still (dropFiber name : Effect L Unit) := by
  refine .bind (.reads fun _ _ _ => rfl) fun f => ?_
  cases f with
  | none => exact .pure _
  | some f =>
    exact .bind (storeFiber_still _ _) fun _ => .bind (releaseStack_still _ _) fun _ => .pure _

/-! ### Computations that give a result -/

theorem Still.sure {x : Effect L α} (hx : Still x) (ok : ∀ w, ∃ a, (x w).1 = .ok a) : Sure x :=
  ⟨hx.mild, ok⟩

theorem Sure.pure (a : α) : Sure (pure a : Effect L α) := (Still.pure a).sure fun _ => ⟨a, rfl⟩

theorem Sure.bind {x : Effect L α} {f : α → Effect L β} (hx : Sure x) (hf : ∀ a, Sure (f a)) :
    Sure (x >>= f) := by
  refine ⟨hx.1.bind fun a => (hf a).1, fun w => ?_⟩
  obtain ⟨a, ha⟩ := hx.2 w
  rcases hw : x w with ⟨_ | _ | _, v⟩ <;> rw [hw] at ha <;> cases ha
  rw [Effect.bind_ok hw]
  exact (hf a).2 v

/-- After a computation that gives a result, coroutines and the ambient state are as before. -/
theorem Sure.meets {x : Effect L α} {w : World L} {Q : Post L α} (hx : Sure x)
    (ok : ∀ a v, v.coroutines = w.coroutines → v.ambient = w.ambient → Grown w v → Q.ok a v) :
    Meets x w Q := by
  obtain ⟨a, ha⟩ := hx.2 w
  have hc := hx.1.coroutines w
  have hv := hx.1.aloof w
  have hg := hx.1.grown w
  rcases hw : x w with ⟨_ | _ | _, v⟩ <;> rw [hw] at ha hc hv hg <;> cases ha
  exact .of_ok hw (ok a v hc hv hg)

theorem Sure.then_meets {x : Effect L α} {f : α → Effect L β} {w : World L} {Q : Post L β}
    (hx : Sure x) (next : ∀ a v, v.coroutines = w.coroutines → v.ambient = w.ambient → Grown w v →
      Meets (f a) v Q) : Meets (x >>= f) w Q := .bind (hx.meets next)

theorem Sure.reads {f : World L → α} (hf : Unbiased f) : Sure (.gets f) :=
  (Still.reads hf).sure fun _ => ⟨_, rfl⟩

theorem makeException_sure (cls : ExceptionClass) (args : List Value) :
    Sure (makeException cls args : Effect L Exception) :=
  (makeException_still _ _).sure fun _ => ⟨_, rfl⟩

theorem raise_sure (error : CoroutineError) : Sure (error.raise : Effect L Exception) :=
  .bind (.bind (.bind (freshIdentity_still.sure fun _ => ⟨_, rfl⟩) fun _ => .pure _) fun _ => .pure _)
    fun _ => makeException_sure _ _

theorem log_sure (level : LogLevel) (message : String) (fields : List (String × Datum)) :
    Sure (log level message fields : Effect L Unit) := (log_still _ _ _).sure fun _ => ⟨_, rfl⟩

theorem logCoroutine_sure (level : LogLevel) (message : String) (c : CoroutineId)
    (fields : List (String × Datum)) : Sure (logCoroutine level message c fields : Effect L Unit) :=
  .bind (.reads fun _ _ _ => rfl) fun _ => log_sure _ _ _

theorem untrackObject_sure (id : TrackedId) : Sure (untrackObject id : Effect L Bool) :=
  ⟨untrackObject_mild id, fun _ => ⟨_, rfl⟩⟩

theorem swapBack_sure (f : Frame) (back : Option Frame) : Sure (swapBack f back : Effect L _) :=
  (swapBack_still _ _).sure fun _ => ⟨_, rfl⟩

theorem makeFrame_sure (code : Code) : Sure (makeFrame code : Effect L Frame) :=
  (makeFrame_still _).sure fun _ => ⟨_, rfl⟩

theorem instantiate_sure (p : PendingException) : Sure (p.instantiate : Effect L Exception) := by
  have rest (e : Exception) :
      Sure (do
        if p.traceback.isSome then
          setTraceback e p.traceback
        return e : Effect L Exception) := by
    split
    · exact .bind ((setTraceback_still _ _).sure fun _ => ⟨_, rfl⟩) fun _ => .pure _
    · exact .pure _
  unfold PendingException.instantiate
  cases p.value with
  | some e => exact rest e
  | none => exact .bind (makeException_sure _ _) rest

theorem surface_sure (code : Code) (frame : Frame) (r : Reply) :
    Sure (surface code frame r : Effect L Reply) := by
  cases r with
  | ok v => exact .bind (makeException_sure _ _) fun _ => .pure _
  | error e =>
    have still : Still (retain (.exception e) : Effect L Unit) :=
      modifyException_still e fun _ => ⟨rfl, fun _ => rfl, fun _ => rfl⟩
    have retained := still.sure fun _ => ⟨_, rfl⟩
    refine .bind ((pushTraceback_still _ _).sure fun _ => ⟨_, rfl⟩) fun _ => ?_
    split
    · exact .bind (raise_sure _) fun _ => .bind retained fun _ =>
        .bind ((attachCause_still _ _).sure fun _ => ⟨_, rfl⟩) fun _ =>
          .bind ((attachContext_still _ _).sure fun _ => ⟨_, rfl⟩) fun _ => .pure _
    · exact .pure _

end CoroutineEngine
