import CoroutineEngine.Proofs.Context
import CoroutineEngine.Proofs.Refinement
import CoroutineEngine.Proofs.Representation

/-!
# Requests that are rejected

A request that is rejected before a switch makes its error, releases its operands, and does nothing else:
the coroutine can be asked again as if the request had never been made. The one exception is a fiber whose
creation panics, which leaves the exception primed that was to be thrown.

Results:
* `rejection_atomic`: what each rejected request does, at every moment of every run, and what becomes of
  later requests.
* `boundless_throw_not_atomic`: a throw that leaves its exception primed.
-/

namespace CoroutineEngine

variable {L : Language} {α β K : Type}

/-! ## Definitions -/

/-- What is answered to the one who asks for a fiber that the supply refuses. -/
def FiberSupply.refusal (s : FiberSupply) : FiberError :=
  if s.failures = 0 then .stackAllocation s.stackSize Stack.outOfMemory else .stackAllocation 0 "exhausted"

/-- Between two worlds nothing happened but that instances, frames and texts were made and lines were logged;
for a coroutine `i` it may have been noted that a fiber was refused. -/
structure Unmoved (i : CoroutineId) (w v : World L) : Prop where
  same : v = { w with
    frames := v.frames, exceptions := v.exceptions, coroutines := v.coroutines
    serial := v.serial, events := v.events }
  record : ∃ failures history, v.coroutine i =
    { w.coroutine i with supply := { (w.coroutine i).supply with failures }, history }
  others : ∀ j, j ≠ i → v.coroutine j = w.coroutine j
  count : v.coroutines.size = w.coroutines.size
  frames : ∀ f : Frame, f.index < w.frames.size → v.frame f = w.frame f
  frameCount : w.frames.size ≤ v.frames.size
  exceptions : ∀ e : Exception, e.index < w.exceptions.size → v.exception e = w.exception e
  exceptionCount : w.exceptions.size ≤ v.exceptions.size

/-- A request is rejected: all it does is to make the instance that it raises, and to release its operands. -/
def Rejected (E : Engine L) (i : CoroutineId) (request : Effect L Reply) (verdict : Verdict)
    (operands : List Value) (w : World L) : Prop :=
  ∃ e v, Unmoved i w v ∧ w.exceptions.size ≤ e.index ∧ verdict.Shown i (.error e) v ∧
    request w = (do
      E.owning [.exception e] (E.releaseAll operands)
      return .error e : Effect L Reply) v

/-- The error for arguments that a throw does not take. -/
def argumentError? (kind value traceback : Value) : Option CoroutineError :=
  if (tracebackOperand? traceback).isNone then some .badTraceback
  else
    match kind with
    | .exceptionClass _ => none
    | .exception _ => if value.isNone then none else some .instanceWithValue
    | other => some (.notAnException other.typeName)

/-- A sequence of requests gets the same answers from two worlds, unless a run is cut in one of them. -/
def AnswersAlike (n : Nat) (i : CoroutineId) (demands : List Demand) (w v : World L) : Prop :=
  (∀ u ∈ [w, v], (serveAll (.watched L (.driven i) n) i demands u).1 ≠ .stop) →
    ∃ answers, ∀ u ∈ [w, v], ∃ sights u', serveAll (.ofDepth L n) i demands u = (.ok sights, u') ∧
      List.Forall₂ Automaton.Observed answers sights

/-- What the requests on a coroutine `i` do that are rejected in a world.

* `early`: another value than the empty one, sent to a coroutine that was never resumed.
* `executing`: any request on a coroutine that is executing.
* `arguments`: a throw with arguments that it does not take; it holds two of them until it is over.
* `late`: a send to a coroutine that is finished. A close does nothing at all.
* `refused`: a start for which there is no fiber, by a send or by a throw.
* `restart`: after any number of rejected requests, a start for which there is a fiber lets the body start
  with the empty value, and nothing is primed.
* `later`: after a request that was rejected without asking for a fiber, all later requests are answered as
  if it had not been made, if what the body does is determined by what is handed to it. -/
structure RejectsAtomically (i : CoroutineId) (n : Nat) (w : World L) : Prop where
  early : ∀ v, (w.coroutine i).status = .unused → v.isNone = false →
    Rejected (.ofDepth L n) i (send (.ofDepth L n) i v) (.fails .sendToUnstarted) [v] w
  executing : (w.coroutine i).running = true →
    (∀ v, Rejected (.ofDepth L n) i (send (.ofDepth L n) i v) (.fails .alreadyExecuting) [v] w) ∧
    (∀ p : PendingException,
      Rejected (.ofDepth L n) i (throwPending (.ofDepth L n) i p) (.fails .alreadyExecuting) p.owned w) ∧
    Rejected (.ofDepth L n) i (close (.ofDepth L n) i) (.fails .alreadyExecuting) [] w
  arguments : ∀ kind value traceback error, argumentError? kind value traceback = some error →
    ∃ request, Rejected (.ofDepth L n) i request (.fails error) [value] w ∧
      throw (.ofDepth L n) i kind value traceback w =
        ((Engine.ofDepth L n).holding kind ((Engine.ofDepth L n).holding traceback request)) w
  late : (w.coroutine i).status = .finished →
    (∀ v, Rejected (.ofDepth L n) i (send (.ofDepth L n) i v) (.stops .none) [v] w) ∧
    close (.ofDepth L n) i w = (.ok (.ok .none), w)
  refused : w.Has i → (w.coroutine i).status = .unused → ¬ (w.coroutine i).IsGranted → ¬ (w.coroutine i).IsDoomed →
    let verdict : Verdict := .fails (.allocation (w.coroutine i).supply.refusal)
    Rejected (.ofDepth L n) i (send (.ofDepth L n) i .none) verdict [.none] w ∧
    ∀ p : PendingException,
      Rejected (.ofDepth L n) i (throwPending (.ofDepth L n) i p) verdict p.owned w
  restart : ∀ v, Unmoved i w v → w.Has i → (w.coroutine i).status = .unused → (v.coroutine i).IsGranted →
    ∃ u frame, (∃ history, u.coroutine i =
        { (v.coroutine i).begun with frame := some frame, history }) ∧
      send (.ofDepth L n) i .none v = resume (.ofDepth L n) i (.ofValue .none) u
  later : ∀ {K : Type} {place : K → Activation L → Prop} {program : L.Script} {ρ : Resumption K}
    {g : Bool} {s : Automaton.State K} {v : World L}, Unmoved i w v → v.coroutines = w.coroutines →
    w.Has i → Represents place program g i s w → ρ.Determined →
    Enacts (.watched L (.driven i) n) i place program ρ → ∀ demands, AnswersAlike n i demands w v

/-! ## Helpers -/

variable {E : Engine L} {i : CoroutineId} {w v u : World L}

namespace Unmoved

theorem refl (i : CoroutineId) (w : World L) : Unmoved i w w where
  same := rfl
  record := ⟨_, _, rfl⟩
  others _ _ := rfl
  count := rfl
  frames _ _ := rfl
  frameCount := Nat.le_refl _
  exceptions _ _ := rfl
  exceptionCount := Nat.le_refl _

theorem trans (h : Unmoved i w v) (h' : Unmoved i v u) : Unmoved i w u where
  same := by
    rw [h'.same, h.same]
  record := by
    obtain ⟨failures, history, hr⟩ := h.record
    obtain ⟨failures', history', hr'⟩ := h'.record
    exact ⟨failures', history', by rw [hr', hr]⟩
  others j hj := (h'.others j hj).trans (h.others j hj)
  count := h'.count.trans h.count
  frames f hf := (h'.frames f (Nat.lt_of_lt_of_le hf h.frameCount)).trans (h.frames f hf)
  frameCount := Nat.le_trans h.frameCount h'.frameCount
  exceptions e he :=
    (h'.exceptions e (Nat.lt_of_lt_of_le he h.exceptionCount)).trans (h.exceptions e he)
  exceptionCount := Nat.le_trans h.exceptionCount h'.exceptionCount

theorem has (h : Unmoved i w v) (hi : w.Has i) : v.Has i := by
  rw [World.Has, h.count]
  exact hi

theorem noted (i : CoroutineId) (w : World L) {f : CoroutineRecord L → CoroutineRecord L}
    (hf : ∃ failures history, f (w.coroutine i) =
      { w.coroutine i with supply := { (w.coroutine i).supply with failures }, history }) :
    Unmoved i w (w.modifyCoroutine i f) where
  same := rfl
  record := by
    by_cases hi : w.Has i
    · rw [(modified_of_has hi f).2]
      exact hf
    · rw [modifyCoroutine_absent hi]
      exact ⟨_, _, rfl⟩
  others j hj := (modified_other w (Ne.symm hj) f).2
  count := Table.size_modify _ _ _
  frames _ _ := rfl
  frameCount := Nat.le_refl _
  exceptions _ _ := rfl
  exceptionCount := Nat.le_refl _

/-- An exception that was primed is not primed any more. -/
theorem unprimed {p : PendingException} (hi : w.Has i) (hp : (w.coroutine i).pending = none)
    (h : Unmoved i (w.modifyCoroutine i fun _ => { w.coroutine i with pending := some p }) v) :
    Unmoved i w (v.modifyCoroutine i fun _ => (v.coroutine i).unprimed) where
  same := by
    rw [h.same]
    rfl
  record := by
    obtain ⟨failures, history, hr⟩ := h.record
    have hhas : v.Has i := h.has (by simpa [World.Has, World.modifyCoroutine] using hi)
    refine ⟨failures, history, ?_⟩
    rw [(modified_of_has hhas _).2, hr, (modified_of_has hi _).2, CoroutineRecord.unprimed, ← hp]
  others j hj := by
    rw [(modified_other v (Ne.symm hj) _).2, h.others j hj, (modified_other w (Ne.symm hj) _).2]
  count := by
    have hc := h.count
    simp only [World.modifyCoroutine, Table.size_modify] at hc ⊢
    exact hc
  frames := h.frames
  frameCount := h.frameCount
  exceptions := h.exceptions
  exceptionCount := h.exceptionCount

end Unmoved

/-- A computation gives a result, and leaves at most something new behind. -/
def Discards (i : CoroutineId) (x : Effect L α) : Prop :=
  ∀ w, ∃ a v, x w = (.ok a, v) ∧ Unmoved i w v

namespace Discards

theorem bind {x : Effect L α} {f : α → Effect L β} (hx : Discards i x) (hf : ∀ a, Discards i (f a)) :
    Discards i (x >>= f) := by
  intro w
  obtain ⟨a, v, hv, hmoved⟩ := hx w
  obtain ⟨b, u, hu, hmoved'⟩ := hf a v
  exact ⟨b, u, (Effect.bind_ok hv f).trans hu, hmoved.trans hmoved'⟩

theorem gets (f : World L → α) : Discards i (.gets f) := fun w => ⟨_, w, rfl, .refl i w⟩

theorem pure (a : α) : Discards i (pure a : Effect L α) := fun w => ⟨a, w, rfl, .refl i w⟩

theorem makeFrame (code : Code) : Discards i (makeFrame code : Effect L Frame) := fun w =>
  ⟨_, _, rfl,
    { Unmoved.refl i w with
      same := rfl
      frames := fun _ hf => Table.get_push_lt _ _ hf
      frameCount := by simp }⟩

theorem makeException (cls : ExceptionClass) (args : List Value) :
    Discards i (makeException cls args : Effect L Exception) := fun w =>
  ⟨_, _, rfl,
    { Unmoved.refl i w with
      same := rfl
      exceptions := fun _ he => Table.get_push_lt _ _ he
      exceptionCount := by simp }⟩

theorem freshIdentity : Discards i (freshIdentity : Effect L Nat) := fun w =>
  ⟨_, _, rfl, { Unmoved.refl i w with same := rfl }⟩

theorem log (level : LogLevel) (message : String) (fields : List (String × Datum)) :
    Discards i (log level message fields : Effect L Unit) := by
  intro w
  refine ⟨(), _, rfl, ?_⟩
  dsimp only
  split
  · split
    · exact { Unmoved.refl i w with same := rfl }
    · exact .refl i w
  · exact .refl i w

theorem logCoroutine (level : LogLevel) (message : String) (c : CoroutineId)
    (fields : List (String × Datum)) : Discards i (logCoroutine level message c fields : Effect L Unit) :=
  .bind (.gets _) fun _ => .log _ _ _

theorem raise (error : CoroutineError) : Discards i (error.raise : Effect L Exception) :=
  .bind (.bind (.bind .freshIdentity fun _ => .pure _) fun _ => .pure _) fun _ => .makeException _ _

theorem makeStopIteration (v : Value) : Discards i (makeStopIteration v : Effect L Exception) :=
  .makeException _ _

end Discards

/-! ## Starts without a fiber -/

/-- A computation gives a result and leaves at most something new behind. -/
def Gives (i : CoroutineId) (x : Effect L α) (w : World L) (a : α) : Prop :=
  ∃ v, x w = (.ok a, v) ∧ Unmoved i w v

theorem Gives.of_moved {x : Effect L α} {a : α} (hx : x w = (.ok a, v)) (h : Unmoved i w v) :
    Gives i x w a := ⟨v, hx, h⟩

theorem Gives.after {x : Effect L α} {f : α → Effect L β} {a : α} {b : β} (hx : x w = (.ok a, v))
    (h : Unmoved i w v) (next : Gives i (f a) v b) : Gives i (x >>= f) w b := by
  obtain ⟨u, hu, hmoved⟩ := next
  exact ⟨u, (Effect.bind_ok hx f).trans hu, h.trans hmoved⟩

theorem createFiber_refused (hg : ¬ (w.coroutine i).IsGranted) (hd : ¬ (w.coroutine i).IsDoomed) :
    Gives i (createFiber i) w (.error (w.coroutine i).supply.refusal) := by
  have hsupply : ((w.modifyCoroutine i fun _ => (w.coroutine i).noteAsk).coroutine i).supply =
      (w.coroutine i).supply := by
    by_cases hi : w.Has i
    · rw [(modified_of_has hi _).2]
      rfl
    · rw [modifyCoroutine_absent hi]
  refine .after rfl (.noted i w ⟨_, _, rfl⟩) ?_
  cases hn : (w.coroutine i).supply.failures with
  | succ n =>
    refine .after rfl (.noted i _ ⟨n, _, by rw [hsupply]⟩) (.of_moved ?_ (.refl i _))
    rw [FiberSupply.refusal, if_neg (by rw [hn]; exact Nat.succ_ne_zero n)]
    rfl
  | zero =>
    have hmapped (u : World L) : mapStack (w.coroutine i).supply.stackSize u =
        (.ok (some (.stackAllocation (w.coroutine i).supply.stackSize Stack.outOfMemory)), u) := by
      unfold mapStack
      cases hgrant : Stack.grant (w.coroutine i).supply.stackSize with
      | overflow => exact absurd ⟨hn, hgrant⟩ hd
      | outOfMemory => rfl
      | granted => exact absurd ⟨hn, hgrant⟩ hg
    rw [FiberSupply.refusal, if_pos hn]
    exact .after (hmapped _) (.refl i _) (.of_moved rfl (.refl i _))

/-- Where a request asks for a fiber that there is not, it gets an error instead. -/
theorem materialize_refused (hg : ¬ (w.coroutine i).IsGranted) (hd : ¬ (w.coroutine i).IsDoomed) :
    Gives i (materialize i) w (some (w.coroutine i).supply.refusal) := by
  obtain ⟨frame, u, hframe, hmoved⟩ := Discards.makeFrame (i := i) (w.coroutine i).code w
  have hsame : u.coroutine i = w.coroutine i := by
    cases hframe
    rfl
  obtain ⟨v, hasked, hmoved'⟩ := createFiber_refused (w := u) (hsame ▸ hg) (hsame ▸ hd)
  obtain ⟨_, v', hlogged, hmoved''⟩ := Discards.logCoroutine (i := i) .warn "fiber allocation failed" i
    [("error", .text (w.coroutine i).supply.refusal.message)] v
  rw [hsame] at hasked
  exact .after rfl (.refl i w) (.after hframe hmoved (.after hasked hmoved'
    (.after hlogged hmoved'' (.of_moved rfl (.refl i v')))))

/-! ## Single requests -/

namespace Rejected

variable {x x' : Effect L Reply} {verdict : Verdict} {operands : List Value}

theorem of_eq (h : x w = x' w) (hx : Rejected E i x' verdict operands w) :
    Rejected E i x verdict operands w := by
  obtain ⟨e, v, hmoved, hnew, hshown, hv⟩ := hx
  exact ⟨e, v, hmoved, hnew, hshown, h.trans hv⟩

theorem after {y : Effect L α} {f : α → Effect L Reply} {a : α} (hy : y w = (.ok a, u))
    (hmoved : Unmoved i w u) (hx : Rejected E i (f a) verdict operands u) :
    Rejected E i (y >>= f) verdict operands w := by
  obtain ⟨e, v, hmoved', hnew, hshown, hv⟩ := hx
  exact ⟨e, v, hmoved.trans hmoved', Nat.le_trans hmoved.exceptionCount hnew, hshown,
    (Effect.bind_ok hy f).trans hv⟩

/-- A refusal that is passed on. -/
theorem refuse_bind (error : CoroutineError) (operands : List Value) (w : World L)
    {f : Except Exception α → Effect L Reply} (hf : ∀ e, f (.error e) = pure (.error e)) :
    Rejected E i (refuse E error operands >>= f) (.fails error) operands w := by
  obtain ⟨e, v, hraised, hmoved⟩ := Discards.raise (i := i) error w
  refine ⟨e, v, hmoved, ?_, fails_shown i ((raise_fresh error w).ok hraised), ?_⟩
  · cases hraised
    exact Nat.le_refl _
  · rw [CoroutineEngine.refuse, Effect.bind_assoc, Effect.bind_ok hraised, Effect.bind_assoc]
    simp only [Effect.pure_bind, hf]

theorem refuse (E : Engine L) (i : CoroutineId) (error : CoroutineError) (operands : List Value)
    (w : World L) : Rejected E i (refuse E error operands) (.fails error) operands w := by
  have h := refuse_bind (E := E) (i := i) (f := pure) error operands w fun _ => rfl
  rwa [Effect.bind_pure] at h

end Rejected

theorem releaseAll_single (E : Engine L) (v : Value) : E.releaseAll [v] = E.release v := by
  funext w
  show (E.release v).andFinally (pure ()) w = _
  rcases h : E.release v w with ⟨_ | _ | _, u⟩ <;> simp [Effect.andFinally, h]

theorem send_early (hu : (w.coroutine i).status = .unused) {v : Value} (hv : v.isNone = false) :
    Rejected E i (send E i v) (.fails .sendToUnstarted) [v] w := by
  refine .after rfl (.refl i w) ?_
  rw [if_pos ⟨hu, by rw [hv]; rfl⟩]
  exact .refuse E i _ _ w

theorem send_late (hf : (w.coroutine i).status = .finished) (v : Value) :
    Rejected E i (send E i v) (.stops .none) [v] w := by
  obtain ⟨e, u, hmade, hmoved⟩ := Discards.makeStopIteration (i := i) .none w
  have hfresh := (makeException_fresh .stopIteration [] w).ok hmade
  refine .after rfl (.refl i w) ?_
  rw [if_neg (by rw [hf]; exact fun h => absurd h.1 (by decide)), if_pos hf]
  refine ⟨e, u, hmoved, ?_, ⟨⟨e, rfl, hfresh.1, ?_⟩, fun e' he' => .inr ?_⟩, ?_⟩
  · cases hmade
    exact Nat.le_refl _
  · exact congrArg (fun r => List.headD r.args _) hfresh.2.2
  · cases he'
    exact hfresh.2.1
  · rw [releaseAll_single]
    exact Effect.bind_ok hmade _

theorem close_late (hf : (w.coroutine i).status = .finished) : close E i w = (.ok (.ok .none), w) := by
  refine (Effect.bind_ok rfl _).trans ?_
  rw [if_pos (by rw [hf]; decide)]
  rfl

/-- A throw with arguments that it does not take. -/
theorem normalizeThrow_rejected {kind value traceback : Value} {error : CoroutineError}
    (h : argumentError? kind value traceback = some error) (w : World L) :
    normalizeThrow E kind value traceback w =
      (refuse E error [value] : Effect L (Except Exception PendingException)) w := by
  unfold argumentError? at h
  unfold normalizeThrow
  cases htraceback : tracebackOperand? traceback with
  | none => simp_all
  | some t =>
    rw [htraceback, if_neg (by simp)] at h
    cases kind with
    | exceptionClass cls => exact absurd h (by simp)
    | exception e =>
      by_cases hv : value.isNone = true
      · simp [hv] at h
      · simp_all
    | _ => simp_all

theorem normalizeThrow_bind {kind value traceback : Value} {error : CoroutineError}
    (h : argumentError? kind value traceback = some error)
    {f : Except Exception PendingException → Effect L Reply} (hf : ∀ e, f (.error e) = pure (.error e)) :
    Rejected E i (normalizeThrow E kind value traceback >>= f) (.fails error) [value] w := by
  refine .of_eq ?_ (.refuse_bind (f := f) error [value] w hf)
  rw [Effect.bind_apply, normalizeThrow_rejected h w]
  rfl

/-- Where there is no fiber, a start raises the error. -/
theorem send_refused (hi : w.Has i) (hu : (w.coroutine i).status = .unused)
    (hr : (w.coroutine i).running = false) (hg : ¬ (w.coroutine i).IsGranted)
    (hd : ¬ (w.coroutine i).IsDoomed) :
    Rejected E i (send E i .none) (.fails (.allocation (w.coroutine i).supply.refusal)) [.none] w := by
  have hvisited := (modified_of_has hi CoroutineRecord.noteVisit).2
  obtain ⟨v, hasked, hmoved⟩ := materialize_refused (i := i)
    (w := w.modifyCoroutine i CoroutineRecord.noteVisit) (by rw [hvisited]; exact hg)
    (by rw [hvisited]; exact hd)
  rw [hvisited] at hasked
  refine .after rfl (.refl i w) ?_
  rw [if_neg (by simp [Value.isNone]), if_neg (by rw [hu]; decide), if_neg (by rw [hr]; decide)]
  refine .after rfl (.noted i w ⟨_, _, rfl⟩) ?_
  rw [if_pos hu]
  exact .after hasked hmoved (.refuse E i _ _ v)

/-- So does a throw, and nothing stays primed. -/
theorem throwPending_refused (hnone : ∀ u, E.release .none u = (.ok (), u)) (hi : w.Has i)
    (hu : (w.coroutine i).status = .unused) (hr : (w.coroutine i).running = false)
    (hp : (w.coroutine i).pending = none) (hg : ¬ (w.coroutine i).IsGranted)
    (hd : ¬ (w.coroutine i).IsDoomed) (p : PendingException) :
    Rejected E i (throwPending E i p) (.fails (.allocation (w.coroutine i).supply.refusal)) p.owned w := by
  have hprimed := (modified_of_has hi fun _ => { w.coroutine i with pending := some p }).2
  obtain ⟨e, v, hmoved, hnew, hshown, hsent⟩ := send_refused (E := E) (i := i)
    (w := w.modifyCoroutine i fun _ => { w.coroutine i with pending := some p })
    (by simpa [World.Has, World.modifyCoroutine] using hi) (by rw [hprimed]; exact hu)
    (by rw [hprimed]; exact hr) (by rw [hprimed]; exact hg) (by rw [hprimed]; exact hd)
  rw [hprimed] at hshown
  have hreply : send E i .none (w.modifyCoroutine i fun _ => { w.coroutine i with pending := some p }) =
      (.ok (.error e), v) := by
    rw [hsent, releaseAll_single]
    exact Effect.bind_ok (Effect.onPanic_ok (hnone v)) _
  have hleft : (v.coroutine i).pending = some p := by
    obtain ⟨failures, history, hrecord⟩ := hmoved.record
    rw [hrecord, hprimed]
  refine ⟨e, _, hmoved.unprimed hi hp, hnew, hshown.mono (.modifyCoroutine v i fun _ => (v.coroutine i).unprimed),
    ?_⟩
  refine (Effect.bind_ok rfl _).trans ?_
  rw [if_neg (by rw [hr]; decide), if_neg (by rw [hu]; decide)]
  refine (Effect.bind_ok (a := none) (by rw [← hp]; rfl) _).trans ((Effect.bind_ok rfl _).trans
    ((Effect.bind_ok hreply _).trans ((Effect.bind_ok rfl _).trans ?_)))
  rw [hleft]
  rfl

/-! ## Later requests -/

/-- A start for which there is a fiber resumes a body that was never entered, with the empty value. -/
theorem send_starts {r : CoroutineRecord L} (hv : At i r v) (hu : r.status = .unused)
    (hr : r.running = false) (hp : r.pending = none) (hg : r.IsGranted) :
    ∃ u frame, (∃ history, u.coroutine i = { r.begun with frame := some frame, history }) ∧
      send E i .none v = resume E i (.ofValue .none) u := by
  have hvisited : At i r.noteVisit (v.modifyCoroutine i CoroutineRecord.noteVisit) :=
    ⟨(modified_of_has hv.has _).1, ⟨hv.orderly.borrowed, hv.orderly.hook⟩, by
      rw [(modified_of_has hv.has _).2, hv.record]⟩
  have hx := (materialize_meets hvisited hu).holds
  rcases hm : materialize i (v.modifyCoroutine i CoroutineRecord.noteVisit) with ⟨refusal | _ | _, u⟩ <;>
    rw [hm] at hx
  · cases refusal with
    | some _ => exact absurd hg hx.2.1
    | none =>
      obtain ⟨frame, hmade⟩ := hx.2
      have hnone : (u.coroutine i).pending = none := by
        rw [hmade.record]
        exact hp
      refine ⟨u.modifyCoroutine i fun _ => { u.coroutine i with pending := none }, frame,
        ⟨r.noteVisit.noteFiber.history, ?_⟩, ?_⟩
      · rw [(modified_of_has hmade.has _).2, hmade.record]
        rfl
      · refine (Effect.bind_ok (a := r) (by rw [← hv.record]; rfl) _).trans ?_
        rw [if_neg (by simp [Value.isNone]), if_neg (by rw [hu]; decide), if_neg (by rw [hr]; decide)]
        refine (Effect.bind_ok rfl _).trans ?_
        rw [if_pos hu]
        exact (Effect.bind_ok hm _).trans (Effect.bind_ok (a := none) (by rw [← hnone]; rfl) _)
  · exact absurd hx.1 hg.not_doomed
  · exact hx.elim

section

variable {place : K → Activation L → Prop} {program : L.Script} {ρ : Resumption K} {g : Bool}
  {s : Automaton.State K} {n : Nat}

theorem Represents.unmoved (h : Represents place program g i s w) (hmoved : Unmoved i w v)
    (hsame : v.coroutines = w.coroutines) : Represents place program g i s v := by
  have hrecord : v.coroutine i = w.coroutine i := congrArg (·.get i.index) hsame
  have hprograms : v.programs = w.programs := by rw [hmoved.same]
  cases h with
  | unused hfresh hcode hprogram =>
    exact .unused (hrecord ▸ hfresh) (hrecord ▸ hcode) (by rw [hrecord, hprograms]; exact hprogram)
  | suspended hwait hcode hplace => exact .suspended (hrecord ▸ hwait) (hrecord ▸ hcode) hplace
  | finished hover => exact .finished (hrecord ▸ hover)

/-- The answers to a sequence of requests, if nothing is cut. -/
theorem serveAll_answers (h : Represents place program g i s w)
    (henacts : Enacts (.watched L (.driven i) n) i place program ρ)
    (hlaw : Lawful ((Watch.driven i).terms i) i w) (hi : w.Has i) {demands : List Demand}
    (hover : (serveAll (.watched L (.driven i) n) i demands w).1 ≠ .stop) :
    ∃ sights u answers s', serveAll (.ofDepth L n) i demands w = (.ok sights, u) ∧
      Automaton.Run ρ g s demands answers s' ∧ List.Forall₂ Automaton.Observed answers sights := by
  have hserved := (h.serveAll henacts hlaw hi demands).holds
  have hsame := (serveAll_client i demands).watched_eq (Watch.driven i) n hover
  rcases hx : serveAll (.watched L (.driven i) n) i demands w with ⟨sights | m | _, u⟩ <;>
    rw [hx] at hserved hover hsame
  · obtain ⟨answers, s', hrun, hall⟩ := hserved
    exact ⟨sights, u, answers, s', hsame, hrun, hall⟩
  · exact absurd (show true = false from hserved) (by decide)
  · exact absurd rfl hover

end

/-! ## Rejection is atomic -/

/-- At every moment of every run, a request that is rejected before a switch makes its error and releases
its operands; no later request can tell. -/
theorem rejection_atomic {clock : Nat} (hw : Moment {} (World.fresh clock) w) (i : CoroutineId) (n : Nat) :
    RejectsAtomically i n w := by
  have hlaw : Lawful (({} : Watch).terms i) i w := (hw.keeps (World.fresh_lawful _ i clock)).lawful
  have hnone (u : World L) : (Engine.ofDepth L n).release .none u = (.ok (), u) := by
    rw [← Engine.watched_nothing]
    exact release_none_watched {} n u
  have hidle (hu : (w.coroutine i).status = .unused) : (w.coroutine i).running = false := by
    cases hr : (w.coroutine i).running with
    | false => rfl
    | true => exact absurd (hu.symm.trans (hlaw.sound.running hr).1) (by decide)
  refine ⟨fun v hu hv => send_early hu hv, fun hr => ?_, fun kind value traceback error h => ?_, fun hf =>
    ⟨send_late hf, close_late hf⟩, fun hi hu hg hd => ?_, fun v hmoved hi hu hg => ?_, ?_⟩
  · have hrefuses := CoroutineRecord.IsExecuting.refuses ⟨hlaw.sound.running hr, hr⟩ (.ofDepth L n)
    exact ⟨fun v => .of_eq (hrefuses.send v) (.refuse _ i _ _ w),
      fun p => .of_eq (hrefuses.throwPending p) (.refuse _ i _ _ w),
      .of_eq hrefuses.close (.refuse _ i _ _ w)⟩
  · exact ⟨_, normalizeThrow_bind h fun _ => rfl, rfl⟩
  · have hp : (w.coroutine i).pending = none := hlaw.sound.pending.resolve_right fun h => hd h.2
    exact ⟨send_refused hi hu (hidle hu) hg hd, throwPending_refused hnone hi hu (hidle hu) hp hg hd⟩
  · obtain ⟨failures, history, hrecord⟩ := hmoved.record
    have hd : ¬ (w.coroutine i).IsDoomed := fun h => by
      have hgrant := hg.2
      rw [hrecord] at hgrant
      exact absurd (hgrant.symm.trans h.2) (by decide)
    have hp : (w.coroutine i).pending = none := hlaw.sound.pending.resolve_right fun h => hd h.2
    have hat : At i (v.coroutine i) v :=
      ⟨hmoved.has hi, by rw [hmoved.same]; exact ⟨hlaw.orderly.borrowed, hlaw.orderly.hook⟩, rfl⟩
    exact send_starts hat (by rw [hrecord]; exact hu) (by rw [hrecord]; exact hidle hu)
      (by rw [hrecord]; exact hp) hg
  · intro K place program ρ g s v hmoved hsame hi hrep hρ henacts demands hover
    have hlaw' : Lawful (({} : Watch).terms i) i v := by
      refine ⟨by rw [hmoved.same]; exact ⟨hlaw.orderly.borrowed, hlaw.orderly.hook⟩, ?_⟩
      rw [World.coroutine, hsame]
      exact hlaw.sound
    obtain ⟨sights, u, answers, s', hserved, hrun, hall⟩ :=
      serveAll_answers hrep henacts hlaw.driven hi (hover w (by simp))
    obtain ⟨sights', u', answers', s'', hserved', hrun', hall'⟩ :=
      serveAll_answers (hrep.unmoved hmoved hsame) henacts hlaw'.driven (hmoved.has hi) (hover v (by simp))
    obtain ⟨rfl, -⟩ := hrun.unique hρ hrun'
    refine ⟨answers, fun z hz => ?_⟩
    rcases List.mem_pair.mp hz with rfl | rfl
    · exact ⟨sights, u, hserved, hall⟩
    · exact ⟨sights', u', hserved', hall'⟩

/-- A driver that throws into a coroutine whose stack is too large for any machine finds the exception primed,
and its handles kept, though the request is over. -/
theorem boundless_throw_not_atomic :
    ∃ w : World Script.language, Moment {} (World.fresh 0) w ∧ (w.coroutine ⟨0⟩).status = .unused ∧
      (w.coroutine ⟨0⟩).pending = none ∧ ∀ n p, ∃ m u,
        throwPending (.ofDepth Script.language n) ⟨0⟩ p w = (.panic m, u) ∧
          (u.coroutine ⟨0⟩).pending = some p := by
  let w : World Script.language := (makeCoroutine boundless (World.fresh 0)).2
  have hbuilt : Moment {} (World.fresh 0) w :=
    .of (x := fun _ => makeCoroutine boundless) 0 .refl (.quiet (makeCoroutine_quiet _))
  refine ⟨w, hbuilt, rfl, rfl, fun n p => ?_⟩
  have hat : At ⟨0⟩ (w.coroutine ⟨0⟩) w := ⟨Nat.lt_succ_self 0, (hbuilt.tended ⟨0⟩).orderly, rfl⟩
  obtain ⟨m, u, hthrown, hu⟩ := throwPending_doomed (E := .ofDepth Script.language n) hat rfl rfl rfl
    ⟨rfl, by decide⟩ p
  exact ⟨m, u, hthrown, congrArg CoroutineRecord.pending hu.record⟩

/-- A coroutine that is refused a fiber twice. -/
def starved : Blueprint where
  code := ⟨0, ⟨0, "starved"⟩, ⟨0, "starved"⟩, 1, true⟩
  name := none
  qualname := none
  parameters := []
  closure := []
  stackSize := none
  reportChildren := none
  failures := 2
  lossIn := none

/-- The world in which it was built. -/
def famine : World Script.language := (makeCoroutine starved (World.fresh 1000)).2

theorem rejection_atomic_famine :
    Moment {} (World.fresh 1000) famine ∧ (famine.coroutine ⟨0⟩).status = .unused ∧
      ¬ (famine.coroutine ⟨0⟩).IsGranted ∧ ¬ (famine.coroutine ⟨0⟩).IsDoomed ∧
        RejectsAtomically ⟨0⟩ 40 famine := by
  have hmoment : Moment {} (World.fresh 1000) famine :=
    .of (x := fun _ => makeCoroutine starved) 0 .refl (.quiet (makeCoroutine_quiet _))
  have hfailures : (famine.coroutine ⟨0⟩).supply.failures = 2 := rfl
  refine ⟨hmoment, rfl, fun h => ?_, fun h => ?_, rejection_atomic hmoment ⟨0⟩ 40⟩
  · exact absurd (hfailures.symm.trans h.1) (by decide)
  · exact absurd (hfailures.symm.trans h.1) (by decide)

end CoroutineEngine
