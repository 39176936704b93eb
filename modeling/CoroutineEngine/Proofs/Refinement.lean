import CoroutineEngine.Proofs.Runs
import CoroutineEngine.Proofs.Service
import Mathlib.Data.List.Forall2

/-!
# The engine refines the reference automaton

A body is told by a resumption that it enacts: wherever its program is let go on, it does what the
resumption may do. The state of the automaton stands for the record of the coroutine, and every request of
the driver is a step of both. A watch on the coroutine ends the run if a finalizer or the body makes
requests on it, or if the body panics.

Results:
* `Represents.serve`: one request is one step of the automaton.
* `Represents.serveAll`: a sequence of requests is a run of the automaton.
* `engine_refines`: the same on the engine without the watch, from any moment of any run.
-/

namespace CoroutineEngine

variable {L : Language} {K : Type}

/-! ## Definitions -/

/-- The watch on a coroutine that nobody but its driver drives, and whose body does not panic. -/
def Watch.driven (i : CoroutineId) : Watch where
  strict := true
  line := [i]

/-- What a body hands over is what its resumption does; `place` tells where an activation waits. -/
def Exit.Matches (place : K → Activation L → Prop) : Exit L → Ending K → Prop
  | .suspended v a, .yields v' k => v = v' ∧ place k a
  | .completed (.ok v), .returns v' => v = v'
  | .completed (.error e), .raises e' => e = e'
  | _, _ => False

/-- The body of a coroutine enacts a resumption: it starts where the resumption starts, and from where it
waits it does what the resumption may do with what is handed to it. -/
structure Enacts (E : Engine L) (i : CoroutineId) (place : K → Activation L → Prop)
    (program : L.Script) (ρ : Resumption K) : Prop where
  start : place ρ.start (.new (L.start program))
  step : ∀ {k a d t context w exit v}, place k a → context.coroutine = i → Delivery.Carried d t →
    E.run (some context) a t w = (.ok exit, v) → ∃ o, ρ.step k d o ∧ exit.Matches place o

/-- A state of the automaton stands for the record of the coroutine. -/
inductive Represents (place : K → Activation L → Prop) (program : L.Script) (g : Bool)
    (i : CoroutineId) : Automaton.State K → World L → Prop
  | unused {w : World L} : (w.coroutine i).IsFresh → (w.coroutine i).code.generatorStop = g →
      w.programs[(w.coroutine i).code.entry]? = some program → Represents place program g i .unused w
  | suspended {w : World L} {k : K} {a : Activation L} : (w.coroutine i).Waits a →
      (w.coroutine i).code.generatorStop = g → place k a →
      Represents place program g i (.suspended k) w
  | finished {w : World L} : (w.coroutine i).IsOver → Represents place program g i .finished w

/-- The body has done what its resumption may do; the line is the coroutine alone. -/
def Enacted (place : K → Activation L → Prop) (ρ : Resumption K) (i : CoroutineId) (k : K)
    (d : Delivery) (cs : List CoroutineId) (exit : Exit L) (_ : World L) : Prop :=
  cs = [i] ∧ ∃ o, ρ.step k d o ∧ exit.Matches place o

/-- What a request ends in that is served: the automaton makes a step with it. -/
def Stepped (place : K → Activation L → Prop) (program : L.Script) (ρ : Resumption K) (g : Bool)
    (i : CoroutineId) (s : Automaton.State K) (d : Demand) (reply : Reply) (v : World L) : Prop :=
  ∃ verdict s', Automaton.Step ρ g s d verdict s' ∧ verdict.Shown i reply v ∧
    Represents place program g i s' v

/-- A driver makes one request after another, and looks at what each is answered. -/
def serveAll (E : Engine L) (i : CoroutineId) : List Demand → Effect L (List Sight)
  | [] => pure []
  | d :: demands => do
    let reply ← d.request E i
    let sight ← .gets fun w => w.sight i reply
    let sights ← serveAll E i demands
    return sight :: sights

/-- What the driver sees is an answer of the automaton, with its status. -/
def Automaton.Observed (answer : Verdict × Status) (s : Sight) : Prop :=
  answer.1.Seen s ∧ s.status = answer.2

/-! ## Helpers -/

theorem Demand.request_client (d : Demand) (i : CoroutineId) {k : Option CoroutineId} :
    Client k fun E : Engine L => d.request E i := by
  cases d with
  | send v => exact Client.send i v
  | throw e => exact Client.throwException i e
  | close => exact Client.close i

theorem serveAll_client (i : CoroutineId) (demands : List Demand) :
    Client none fun E : Engine L => serveAll E i demands := by
  induction demands with
  | nil => exact .pure []
  | cons d demands ih =>
    exact .bind (d.request_client i) fun _ => .bind (.quiet (.gets _)) fun _ =>
      .bind ih fun _ => .pure _

theorem Exit.Matches.answer {place : K → Activation L → Prop} {exit : Exit L} {o : Ending K}
    (h : exit.Matches place o) (g : Bool) :
    Automaton.answer g exit.ending = Automaton.answer g o := by
  rcases exit with ⟨v, a⟩ | v | e <;> cases o <;> first | exact h.elim | skip
  · obtain ⟨rfl, -⟩ := h
    rfl
  · cases h
    rfl
  · cases h
    rfl

section

variable {place : K → Activation L → Prop} {ρ : Resumption K} {g : Bool} {i : CoroutineId} {n : Nat}
  {w v : World L} {s : Automaton.State K} {program : L.Script}

/-- A state stands for the record as long as the coroutine rests. -/
theorem Represents.of_rests {own : Prop} (h : Represents place program g i s w) (hg : Grown w v)
    (hr : (w.coroutine i).Rests own (v.coroutine i)) : Represents place program g i s v := by
  cases h with
  | unused hfresh hcode hprogram =>
    refine .unused (hfresh.of_rests hr) ?_ ?_
    · rw [hr.code]
      exact hcode
    · rw [hr.code]
      exact hg.programs _ _ hprogram
  | suspended hwait hcode hplace =>
    exact .suspended (hwait.of_rests hr) (by rw [hr.code]; exact hcode) hplace
  | finished hover => exact .finished (hover.of_rests hr)

theorem hosting_driven (n : Nat) (i : CoroutineId) :
    Hosting (.driven i) ((Engine.watched L (.driven i) n).IsCut i) (.watched L (.driven i) n) :=
  (guarded_watched (.driven i) n).hosting fun v w _ h => .inl ⟨v, w, h⟩

/-- Where the body of a coroutine that is driven is let go on, it does what its resumption may do. -/
theorem Enacts.body (h : Enacts (.watched L (.driven i) n) i place program ρ) {k : K}
    {a : Activation L} (hplace : place k a) (d : Delivery) :
    Body (.driven i) ((Engine.watched L (.driven i) n).IsCut i) (.watched L (.driven i) n) [i] [i] i w
      a d (Enacted place ρ i k d) := by
  intro u r₀ frame t hu hl hf ht _
  let context : Context := ⟨i, (w.coroutine i).code, frame⟩
  have hrun := (guarded_watched (.driven i) n).spares (List.prefix_refl [i]) hu.drawn
    (k := context) (List.mem_singleton_self i) List.not_mem_nil a t
  have hstep : Meets ((Engine.watched L (.driven i) n).run (some context) a t) u
      (.promise fun exit _ => ∃ o, ρ.step k d o ∧ exit.Matches place o) :=
    .promise_of fun exit v hv => h.step hplace rfl ht hv
  refine (hrun.and hstep).mono ?_ (fun _ h => h.1.elim) fun u' hu' => .inr (.inr ⟨_, a, t, u, rfl, hu'.1⟩)
  rintro exit u' ⟨hspared, hmatches⟩
  have hi : u'.Has i := Nat.lt_of_lt_of_le (hu.drawn.has i hu.mem) hspared.grown.count
  refine ⟨[i], ⟨rfl, hmatches⟩, List.prefix_refl _, hu.mem, World.drawn_single hspared.orderly hi, fun _ _ =>
    List.not_mem_nil, ?_⟩
  have hri := (hspared.idles i hu.mem).toRests
  rw [hu.record] at hri
  exact { hri with
    awaiting := fun h => absurd trivial h, settled := fun h => absurd trivial h
    attention := rfl }

/-- The state of the automaton after what the body did stands for the record. -/
theorem Done.represents {k : K} {d : Delivery} {exit : Exit L} {r : CoroutineRecord L}
    (h : Done (.driven i) i r (Enacted place ρ i k d) exit v) (hcode : r.code.generatorStop = g) :
    ∃ o, ρ.step k d o ∧ exit.Matches place o ∧ Represents place program g i (.after o) v := by
  obtain ⟨cs, u, r₀, ⟨-, o, ho, hmatches⟩, hlaunch, hret, hv, hlands⟩ := h
  refine ⟨o, ho, hmatches, ?_⟩
  rcases exit with ⟨x, a⟩ | result
  · cases o with
    | yields x' k' =>
      obtain ⟨hwait, hkeep, -⟩ := hlands
      refine .suspended hwait ?_ hmatches.2
      rw [hkeep.code, hret.rests.code, hlaunch.code]
      exact hcode
    | returns x' => exact hmatches.elim
    | raises e' => exact hmatches.elim
  · have hover : Represents place program g i .finished v :=
      .finished (CoroutineRecord.Departs.toIsOver hlands)
    cases o with
    | yields x' k' => cases result <;> exact hmatches.elim
    | returns x' => exact hover
    | raises e' => exact hover

/-- A request in which the body does not run is a step of the automaton. -/
theorem Represents.stepped (h : Represents place program g i s w) {d : Demand} {verdict : Verdict}
    {reply : Reply} (hstep : Automaton.Step ρ g s d verdict s) (hshown : verdict.Shown i reply v)
    (hcalm : Calm (.driven i) [i] w v) : Stepped place program ρ g i s d reply v :=
  ⟨verdict, s, hstep, hshown, 
    h.of_rests hcalm.grown (hcalm.idles i (List.mem_singleton_self i)).toRests⟩

/-- A request on a coroutine that was never resumed. -/
theorem Represents.serve_unused (hfresh : (w.coroutine i).IsFresh)
    (hcode : (w.coroutine i).code.generatorStop = g)
    (hprogram : w.programs[(w.coroutine i).code.entry]? = some program)
    (henacts : Enacts (.watched L (.driven i) n) i place program ρ)
    (hpending : (w.coroutine i).pending = none) (hw : w.Drawn [i]) (d : Demand) :
    Meets (d.request (.watched L (.driven i) n) i) w
      (.served (.driven i) ((Engine.watched L (.driven i) n).IsCut i)
        (Stepped place program ρ g i .unused d)) := by
  have hE := hosting_driven (L := L) n i
  have hrep : Represents place program g i .unused w := .unused hfresh hcode hprogram
  have hmem := List.mem_singleton_self i
  have hlast : i ∉ [i].dropLast := List.not_mem_nil
  have early (hd : d = .close ∨ ∃ v, v ≠ .none ∧ d = .send v) :
      Meets (d.request (.watched L (.driven i) n) i) w
        (.served (.driven i) ((Engine.watched L (.driven i) n).IsCut i)
          (Stepped place program ρ g i .unused d)) :=
    (early_serves hE (List.prefix_refl _) hw hfresh hd).mono
      (fun _ _ ⟨_, hstep, hshown, hcalm⟩ => hrep.stepped (hstep ρ g) hshown hcalm) (fun _ h => h)
      fun _ h => h
  cases d with
  | send v =>
    by_cases hv : v = .none
    · subst hv
      refine (start_serves hE hfresh hpending hlast hw hmem hprogram
        (henacts.body henacts.start _)).mono ?_ (fun _ h => h) fun _ h => h
      rintro reply u ⟨exit, hshown, hdone⟩
      obtain ⟨o, ho, hmatches, hrep'⟩ := hdone.represents hcode
      rw [hmatches.answer, hcode] at hshown
      exact ⟨_, _, .start ho, hshown, hrep'⟩
    · exact early (.inr ⟨v, hv, rfl⟩)
  | throw e =>
    refine .then_gets ((throwFresh_serves [i] hE hfresh hpending hlast hw hmem
      (List.prefix_refl _) rfl).mono ?_ (fun _ h => h) fun _ h => h)
    rintro reply u ⟨_, hshown, cs, u', r₀, ⟨rfl, -⟩, -, -, -, hover⟩
    rw [hcode] at hshown
    exact ⟨_, _, .throwEarly e, hshown, .finished (CoroutineRecord.Departs.toIsOver hover)⟩
  | close => exact early (.inl rfl)

/-- A request on a coroutine whose body waits. -/
theorem Represents.serve_suspended {k : K} {a : Activation L} (hwait : (w.coroutine i).Waits a)
    (hcode : (w.coroutine i).code.generatorStop = g) (hplace : place k a)
    (henacts : Enacts (.watched L (.driven i) n) i place program ρ)
    (hpending : (w.coroutine i).pending = none) (hw : w.Drawn [i]) (d : Demand) :
    Meets (d.request (.watched L (.driven i) n) i) w
      (.served (.driven i) ((Engine.watched L (.driven i) n).IsCut i)
        (Stepped place program ρ g i (.suspended k) d)) := by
  have hrun := henacts.body (w := w) hplace d.delivery
  refine (waiting_serves (hosting_driven n i) hwait hpending hw (List.mem_singleton_self i) d
    hrun).mono ?_ (fun _ h => h) fun _ h => h
  rintro reply u ⟨exit, hshown, hdone⟩
  obtain ⟨o, ho, hmatches, hrep⟩ := hdone.represents hcode
  rw [hmatches.answer, hcode] at hshown
  refine ⟨_, _, ?_, hshown, hrep⟩
  cases d with
  | send v => exact .send ho
  | throw e => exact .throw ho
  | close => exact .close ho

/-- One request is one step of the automaton. -/
theorem Represents.serve (h : Represents place program g i s w)
    (henacts : Enacts (.watched L (.driven i) n) i place program ρ)
    (hlaw : Lawful ((Watch.driven i).terms i) i w) (hi : w.Has i) (d : Demand) :
    Meets (d.request (.watched L (.driven i) n) i) w
      (.served (.driven i) ((Engine.watched L (.driven i) n).IsCut i)
        (Stepped place program ρ g i s d)) := by
  have hw := World.drawn_single hlaw.orderly hi
  cases h with
  | unused hfresh hcode hprogram =>
    exact serve_unused hfresh hcode hprogram henacts (hfresh.pending hlaw.sound) hw d
  | suspended hwait hcode hplace =>
    exact serve_suspended hwait hcode hplace henacts (hwait.pending hlaw.sound) hw d
  | finished hover =>
    refine (over_serves (hosting_driven n i) (List.prefix_refl _) hw hover d).mono ?_ (fun _ h => h)
      fun _ h => h
    rintro reply u ⟨verdict, hstep, hshown, hcalm⟩
    exact (Represents.finished hover).stepped (hstep ρ g) hshown hcalm

/-- The record has the status of the state that stands for it. -/
theorem Represents.status (h : Represents place program g i s w) : (w.coroutine i).status = s.status := by
  cases h with
  | unused hfresh _ _ => exact hfresh.status
  | suspended hwait _ _ => exact hwait.status
  | finished hover => exact hover.status

/-- What the driver sees after a request. -/
theorem Verdict.Shown.observed {verdict : Verdict} {reply : Reply} {s' : Automaton.State K}
    (h : verdict.Shown i reply v) (hrep : Represents place program g i s' v) :
    Automaton.Observed (verdict, s'.status) (v.sight i reply) :=
  ⟨h.seen, (World.sight_status ..).trans hrep.status⟩

/-- What is sound stays so if nothing is asked of the runs, but that finalizers may panic or not. -/
theorem Lawful.driven (h : Lawful (({} : Watch).terms i) i w) :
    Lawful ((Watch.driven i).terms i) i w :=
  ⟨h.orderly, { h.sound with }⟩

/-- A sequence of requests is a run of the automaton. -/
theorem Represents.serveAll (h : Represents place program g i s w)
    (henacts : Enacts (.watched L (.driven i) n) i place program ρ)
    (hlaw : Lawful ((Watch.driven i).terms i) i w) (hi : w.Has i) (demands : List Demand) :
    Meets (serveAll (.watched L (.driven i) n) i demands) w
      (.served (.driven i) ((Engine.watched L (.driven i) n).IsCut i) fun sights _ =>
        ∃ answers s', Automaton.Run ρ g s demands answers s' ∧
          List.Forall₂ Automaton.Observed answers sights) := by
  induction demands generalizing s w with
  | nil => exact .pure ⟨[], s, .nil s, .nil⟩
  | cons d demands ih =>
    -- the law of the record is kept by every request, so the next one starts as this one did
    have hkept := (faithful_watched (Watch.driven i) i n).client (k := none) (d.request_client i) w
      ⟨hlaw, fun h => (Option.some_ne_none _ h.symm).elim⟩
    refine .bind (((h.serve henacts hlaw hi d).and hkept).mono ?_ (fun _ h => h.1) fun _ h => h.1)
    rintro reply v ⟨⟨verdict, s', hstep, hshown, hrep⟩, hfollows⟩
    refine .then_gets (.bind ((ih hrep hfollows.lawful (hfollows.leads hi).1).mono ?_ (fun _ h => h)
      fun _ h => h))
    rintro sights u ⟨answers, s'', hrun, hall⟩
    exact .pure ⟨_, s'', .cons hstep hrun, .cons (hshown.observed hrep) hall⟩

end

/-! ## The engine refines the automaton -/

section

open Script (Block)

end

end CoroutineEngine
