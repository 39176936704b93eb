import CoroutineEngine.Proofs.Runs

/-!
# The inputs of a body

A body reaches its parameters and its closure cells through its coroutine. They are handed over when the
coroutine is built, and given up only when it is finished or when nobody holds it any more. So a body finds
them all, in their order, whenever it is executed while somebody holds its coroutine. One that is executed
because its coroutine is being torn down finds none of them, though they were not given up yet.

Results:
* `inputs_reached`: what a body finds at every step, in all runs.
* `farewell_without_inputs`: a body that is closed by the teardown finds nothing.
-/

namespace CoroutineEngine

variable {L : Language}

/-! ## Definitions -/

/-- What a body finds of its inputs: each parameter and each cell at its place, and nothing beyond. -/
structure FindsInputs (k : Context) (parameters : List Value) (closure : List CellId)
    (w : World L) : Prop where
  parameter : ∀ index, w.parameter? k index = parameters[index]?
  closureCell : ∀ index, w.closureCell? k index = closure[index]?

/-- What is kept of the inputs of a coroutine `i` in runs from a world.

* `built`: the history of the coroutine notes what it was built with.
* `lasting`: that note does not change while the inputs are held.
* `found`: wherever the body of the coroutine is executed, and whatever it does from there, it finds what the
  coroutine was built with, until the coroutine is torn down. From then on it finds nothing. -/
structure ReachesInputs (W : Watch) (i : CoroutineId) (w : World L) : Prop where
  built : ∀ (b : Blueprint) (v : World L), v.coroutines.size = i.index →
    ((makeCoroutine b v).2.coroutine i).history = .new b.parameters b.closure
  lasting : ∀ v u, Reaches W w v → Moment W v u → v.Has i → (u.coroutine i).released = false →
    (u.coroutine i).history.parameters = (v.coroutine i).history.parameters ∧
      (u.coroutine i).history.closure = (v.coroutine i).history.closure
  found : ∀ v, Moment W w v → (v.coroutine i).running = true →
    ∀ {α : Type} {x : Procedure L α} {a : α} {u : World L} (n : Nat) (k : Context),
      k.coroutine = i → Client (some i) x → x (.watched L W n) v = (.ok a, u) →
        (u.coroutine i).running = true ∧
          if (u.coroutine i).history.teardowns = 0 then
            FindsInputs k (v.coroutine i).history.parameters (v.coroutine i).history.closure u
          else FindsInputs k [] [] u

/-! ## Helpers -/

section

variable {T : Terms} {i : CoroutineId} {k : Context} {r r' : CoroutineRecord L} {w v : World L}

theorem FindsInputs.of_alive (hk : k.coroutine = i) (halive : w.isAlive i = true) :
    FindsInputs k (w.coroutine i).inputs.parameters (w.coroutine i).inputs.closure w := by
  subst hk
  exact ⟨fun _ => if_pos halive, fun _ => if_pos halive⟩

theorem FindsInputs.of_dead (hk : k.coroutine = i) (hdead : ¬ w.isAlive i = true) :
    FindsInputs k [] [] w := by
  subst hk
  exact ⟨fun _ => if_neg hdead, fun _ => if_neg hdead⟩

/-- A coroutine is alive until it is torn down. -/
theorem Tended.alive_iff (h : Tended i w) (hi : w.Has i) :
    w.isAlive i = true ↔ (w.coroutine i).history.teardowns = 0 := by
  have hteardowns : (w.coroutine i).history.teardowns = if (w.coroutine i).handles = 0 then 1 else 0 :=
    (h.lawful hi).teardowns
  rw [hteardowns]
  simp [World.isAlive]

theorem makeCoroutine_coroutines (b : Blueprint) (w : World L) :
    (makeCoroutine b w).2.coroutines = w.coroutines.push (b.record w.settings) := by
  let c : CoroutineId := ⟨w.coroutines.size⟩
  have rest : Still (do
      log .trace "gc track" [("kind", .text coroutineKind)]
      logCoroutine .debug "coroutine created" c []
      return c : Effect L CoroutineId) :=
    .bind (log_still _ _ _) fun _ => .bind (logCoroutine_still _ _ _ _) fun _ => .pure _
  exact rest.coroutines _

/-- The inputs of a coroutine that somebody holds are held as long as it is not finished. -/
theorem CoroutineRecord.IsCoherent.unreleased (h : r.IsCoherent T) (hf : r.status ≠ .finished)
    (hh : r.handles ≠ 0) : r.released = false := by
  cases hr : r.released with
  | false => rfl
  | true => exact ((h.torn hr).elim hf hh).elim

/-- As long as the inputs are held, they are those that the coroutine was built with. -/
theorem CoroutineRecord.Precedes.history_inputs (h : r.Precedes r') (hs : r.IsCoherent T)
    (hs' : r'.IsCoherent T) (hr' : r'.released = false) :
    r'.history.parameters = r.history.parameters ∧ r'.history.closure = r.history.closure := by
  have hr : r.released = false := by
    cases hr : r.released with
    | false => rfl
    | true => exact absurd (h.released hr) (by simp [hr'])
  have hsame : Inputs.new r'.history.parameters r'.history.closure =
      .new r.history.parameters r.history.closure := by
    rw [← hs'.held hr', h.inputs hr', hs.held hr]
  exact ⟨congrArg Inputs.parameters hsame, congrArg Inputs.closure hsame⟩

end

/-! ## Inputs are reached -/

/-- The body of a coroutine finds its inputs at every step, unless the coroutine was torn down. -/
theorem inputs_reached (W : Watch) (i : CoroutineId) (clock : Nat) :
    ReachesInputs W i (World.fresh clock : World L) where
  built b v hi := by
    have hnew : (makeCoroutine b v).2.coroutine i = b.record v.settings := by
      rw [World.coroutine, makeCoroutine_coroutines, ← hi]
      exact Table.get_push_self _ _
    rw [hnew]
    rfl
  lasting v u hv hu hi hr := by
    have hlaw := (hv.keeps (World.fresh_lawful (W.terms i) i clock)).lawful
    have hcut := hu.keeps hlaw
    exact (hcut.precedes hi).history_inputs hlaw.sound.toIsCoherent hcut.lawful.sound.toIsCoherent hr
  found v hv hrun α x a u n k hk hx hover := by
    have hlaw := (hv.keeps (World.fresh_lawful (W.terms i) i clock)).lawful
    have hexec : (v.coroutine i).IsExecuting := ⟨hlaw.sound.running hrun, hrun⟩
    have hstep := ((faithful_watched W i n).client hx v ⟨hlaw, fun _ => hexec⟩).ok hover
    have hexec' := hstep.executing rfl
    have htended : Tended i u :=
      (((tending_watched W i n).client hx v (hv.tended i)).ok hover).1.tended
    have halive := htended.alive_iff (standing_has hexec')
    refine ⟨hexec'.2, ?_⟩
    split
    · next hnone =>
      have hs := hstep.lawful.sound
      have hheld : (u.coroutine i).released = false :=
        hs.unreleased (by rw [hexec'.1.1]; decide) (by simpa [World.isAlive] using halive.mpr hnone)
      have hsame := (hstep.leads (standing_has hexec)).2.toPrecedes.history_inputs
        hlaw.sound.toIsCoherent hs.toIsCoherent hheld
      have hfinds := FindsInputs.of_alive hk (halive.mpr hnone)
      rwa [hs.held hheld, hsame.1, hsame.2] at hfinds
    · next hsome => exact .of_dead hk fun h => hsome (halive.mp h)

/-! ## A body that outlives its coroutine -/

section

open Script (Block)

/-- A body that does not heed the cancellation signal until it gets it again. -/
def heedless : Block :=
  [.attempt [.yield .none none]
    [.mk none none false [.attempt [.yield .none none] [.mk none none false [.yield .none none]] []]] []]

/-- Builds a heedless coroutine from a number and a cell, starts it, and lets go of it. -/
def forsake (E : Engine Script.language) : Effect Script.language Unit := do
  let spec := { coroutineOf "c" heedless with parameters := [.int 7], closure := [.cell (.int 8)] }
  match ← perform E .outer (.makeCoroutine spec) with
  | .ok (.value v) =>
    storeSlot E "c" v
    let _ ← perform E .outer (.send (.slot "c") .none)
    let _ ← perform E .outer (.dropSlot "c")
  | _ => pure ()

theorem forsake_client : Client none forsake := by
  refine .bind (Client.perform .outer _) fun answer => ?_
  rcases answer with e | v | d
  · exact .pure ()
  · exact .bind (Client.storeSlot _ v) fun _ => .bind (Client.perform .outer _) fun _ =>
      .bind (Client.perform .outer _) fun _ => .pure ()
  · exact .pure ()

/-- A body that is executed because its coroutine is being torn down cannot reach its inputs, though its
coroutine still holds them. -/
theorem farewell_without_inputs :
    ∃ v : World Script.language, Moment {} (World.fresh 10) v ∧ (v.coroutine ⟨0⟩).running = true ∧
      (v.coroutine ⟨0⟩).inputs.parameters.length = 1 ∧ (v.coroutine ⟨0⟩).inputs.closure = [⟨0⟩] ∧
      ∀ k : Context, k.coroutine = ⟨0⟩ → v.parameter? k 0 = none ∧ v.closureCell? k 0 = none := by
  let v : World Script.language := (forsake (.watched _ {} 40) (World.fresh 10)).2
  have hv : (v.coroutine ⟨0⟩).running = true ∧ (v.coroutine ⟨0⟩).inputs.parameters.length = 1 ∧
      (v.coroutine ⟨0⟩).inputs.closure = [⟨0⟩] ∧ ¬ v.isAlive ⟨0⟩ = true := by
    decide +kernel
  refine ⟨v, .of (x := forsake) 40 .refl forsake_client, hv.1, hv.2.1, hv.2.2.1, fun k hk => ?_⟩
  have hfinds := FindsInputs.of_dead hk hv.2.2.2
  exact ⟨hfinds.parameter 0, hfinds.closureCell 0⟩

end

end CoroutineEngine
