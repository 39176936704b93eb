import CoroutineEngine.World.Basic
import CoroutineEngine.Coroutine.Error

/-!
# The reference automaton

What the requests of a driver are answered, told without fibers, frames and switches. A body is a
resumption: whatever is handed to it where it waits, it yields a value and waits again, returns a value, or
raises an instance. The automaton knows whether the body was started, where it waits, and whether it is
over.

Results:
* `Step.status_le`: the status only moves forward.
* `Run.unique`: if what a body does is determined by what is handed to it, the answers are determined.
-/

namespace CoroutineEngine

/-! ## Definitions -/

/-- What is handed to a body: a value, an instance to raise, or the cancellation signal. -/
inductive Delivery
  | value (v : Value)
  | raised (e : Exception)
  | cancelled

/-- What a body does next; `K` are the places where it can wait. -/
inductive Ending (K : Type)
  | yields (v : Value) (k : K)
  | returns (v : Value)
  | raises (e : Exception)

/-- A body, told by what it may do with what is handed to it. It is started by an empty value. -/
structure Resumption (K : Type) where
  start : K
  step : K → Delivery → Ending K → Prop

/-- What a body does is determined by what is handed to it. -/
def Resumption.Determined {K : Type} (ρ : Resumption K) : Prop :=
  ∀ k d o o', ρ.step k d o → ρ.step k d o' → o = o'

/-- A request of a driver. -/
inductive Demand
  | send (v : Value)
  | throw (e : Exception)
  | close

/-- What a request is answered: a value, the exhaustion signal with a result, a given instance, an error
of the engine, or the error that is raised in place of an exhaustion signal. -/
inductive Verdict
  | gives (v : Value)
  | stops (v : Value)
  | raises (e : Exception)
  | fails (error : CoroutineError)
  | leaks (e : Exception)

namespace Automaton

/-- The state of the automaton. -/
inductive State (K : Type)
  | unused
  | suspended (k : K)
  | finished

/-- The status that a state has. -/
def State.status {K : Type} : State K → Status
  | unused => .unused
  | suspended _ => .running
  | finished => .finished

/-- The state after what a body did. -/
def State.after {K : Type} : Ending K → State K
  | .yields _ k => suspended k
  | .returns _ | .raises _ => finished

/-- What a send or a throw is answered after what a body did; `g` says whether an exhaustion signal that
is raised becomes an error. -/
def answer {K : Type} (g : Bool) : Ending K → Verdict
  | .yields v _ => .gives v
  | .returns v => .stops v
  | .raises e => if e.cls.isSubclassOf .stopIteration && g then .leaks e else .raises e

/-- What a close is answered: the cancellation signal and the exhaustion signal are what it expects. -/
def closing : Verdict → Verdict
  | .gives _ => .fails .ignoredGeneratorExit
  | .stops _ => .gives .none
  | .raises e =>
    if e.cls.isSubclassOf .generatorExit || e.cls.isSubclassOf .stopIteration then .gives .none
    else .raises e
  | .fails error => .fails error
  | .leaks e => .leaks e

/-- A request takes the automaton from a state to a state, with an answer. -/
inductive Step {K : Type} (ρ : Resumption K) (g : Bool) :
    State K → Demand → Verdict → State K → Prop
  | sendEarly {v : Value} : v ≠ .none → Step ρ g .unused (.send v) (.fails .sendToUnstarted) .unused
  | start {o : Ending K} : ρ.step ρ.start (.value .none) o →
      Step ρ g .unused (.send .none) (answer g o) (.after o)
  | throwEarly (e : Exception) :
      Step ρ g .unused (.throw e) (answer g (.raises e : Ending K)) .finished
  | closeEarly : Step ρ g .unused .close (.gives .none) .unused
  | send {k : K} {v : Value} {o : Ending K} : ρ.step k (.value v) o →
      Step ρ g (.suspended k) (.send v) (answer g o) (.after o)
  | throw {k : K} {e : Exception} {o : Ending K} : ρ.step k (.raised e) o →
      Step ρ g (.suspended k) (.throw e) (answer g o) (.after o)
  | close {k : K} {o : Ending K} : ρ.step k .cancelled o →
      Step ρ g (.suspended k) .close (closing (answer g o)) (.after o)
  | sendLate (v : Value) : Step ρ g .finished (.send v) (.stops .none) .finished
  | throwLate (e : Exception) : Step ρ g .finished (.throw e) (.raises e) .finished
  | closeLate : Step ρ g .finished .close (.gives .none) .finished

/-- A sequence of requests, with what each is answered and the status after it. -/
inductive Run {K : Type} (ρ : Resumption K) (g : Bool) :
    State K → List Demand → List (Verdict × Status) → State K → Prop
  | nil (s : State K) : Run ρ g s [] [] s
  | cons {s s' s'' : State K} {d : Demand} {verdict : Verdict} {demands : List Demand}
      {answers : List (Verdict × Status)} : Step ρ g s d verdict s' → Run ρ g s' demands answers s'' →
      Run ρ g s (d :: demands) ((verdict, s'.status) :: answers) s''

end Automaton

/-- What a driver sees of an answer: the reply, what the instance carries if one is raised, and the
status of the coroutine. -/
structure Sight where
  reply : Reply
  args : List Value
  cause : Option Exception
  context : Option Exception
  status : Status

/-- A driver looks at an answer. -/
def World.sight {L : Language} (w : World L) (i : CoroutineId) (reply : Reply) : Sight :=
  match reply with
  | .ok _ => ⟨reply, [], none, none, (w.coroutine i).status⟩
  | .error e =>
    let r := w.exception e
    ⟨reply, r.args, r.cause, r.context, (w.coroutine i).status⟩

/-- An answer is what a driver sees. -/
def Verdict.Seen : Verdict → Sight → Prop
  | .gives v, s => s.reply = .ok v
  | .stops v, s => ∃ e, s.reply = .error e ∧ e.cls = .stopIteration ∧ s.args.headD .none = v
  | .raises e, s => s.reply = .error e
  | .fails error, s => ∃ e id, s.reply = .error e ∧ e.cls = error.exceptionClass ∧
      s.args = [.str ⟨id, error.message⟩]
  | .leaks e, s => ∃ e' id, s.reply = .error e' ∧
      e'.cls = CoroutineError.leakedStopIteration.exceptionClass ∧
      s.args = [.str ⟨id, CoroutineError.leakedStopIteration.message⟩] ∧
      s.cause = some e ∧ s.context = some e

/-! ## Helpers -/

namespace Automaton

variable {K : Type} {ρ : Resumption K} {g : Bool} {s s' s'' : State K} {d : Demand}
  {verdict verdict' : Verdict}

/-- The status only moves forward. -/
theorem Step.status_le (h : Step ρ g s d verdict s') : s.status.rank ≤ s'.status.rank := by
  have hafter (o : Ending K) : 1 ≤ (State.after o).status.rank := by
    cases o <;> simp [State.after, State.status, Status.rank]
  cases h with
  | start _ => exact Nat.zero_le _
  | send _ => exact hafter _
  | throw _ => exact hafter _
  | close _ => exact hafter _
  | _ => simp [State.status, Status.rank]

theorem Step.unique (hρ : ρ.Determined) (h : Step ρ g s d verdict s')
    (h' : Step ρ g s d verdict' s'') : verdict = verdict' ∧ s' = s'' := by
  cases h with
  | sendEarly hv =>
    cases h' with
    | sendEarly _ => exact ⟨rfl, rfl⟩
    | start _ => exact absurd rfl hv
  | start ho =>
    cases h' with
    | sendEarly hv => exact absurd rfl hv
    | start ho' => rw [hρ _ _ _ _ ho ho']; exact ⟨rfl, rfl⟩
  | send ho =>
    cases h' with
    | send ho' => rw [hρ _ _ _ _ ho ho']; exact ⟨rfl, rfl⟩
  | throw ho =>
    cases h' with
    | throw ho' => rw [hρ _ _ _ _ ho ho']; exact ⟨rfl, rfl⟩
  | close ho =>
    cases h' with
    | close ho' => rw [hρ _ _ _ _ ho ho']; exact ⟨rfl, rfl⟩
  | _ => cases h' <;> exact ⟨rfl, rfl⟩

/-- The answers to a sequence of requests are determined if the body is. -/
theorem Run.unique (hρ : ρ.Determined) {demands : List Demand} {answers answers' : List (Verdict × Status)}
    (h : Run ρ g s demands answers s') (h' : Run ρ g s demands answers' s'') :
    answers = answers' ∧ s' = s'' := by
  induction h generalizing answers' s'' with
  | nil s =>
    cases h'
    exact ⟨rfl, rfl⟩
  | cons hstep _ ih =>
    cases h' with
    | cons hstep' hrun' =>
      obtain ⟨rfl, rfl⟩ := hstep.unique hρ hstep'
      obtain ⟨rfl, rfl⟩ := ih hrun'
      exact ⟨rfl, rfl⟩

end Automaton

end CoroutineEngine
