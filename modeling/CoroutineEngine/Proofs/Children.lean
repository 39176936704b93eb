import CoroutineEngine.Proofs.Composure
import CoroutineEngine.Proofs.Dissolution
import CoroutineEngine.Proofs.Origin
import CoroutineEngine.Proofs.Representation

/-!
# What a collector sees of a coroutine

A coroutine that was built to report its children shows a collector what it owns in its state: the closure cells as
long as somebody holds it, the parameters until it finishes, the frame while it is started, and the delegate while its
body delegates. A thrown exception is in its slot only while nobody can look. A coroutine that was built not to report
shows nothing for good.

Results:
* `Moment.composed`: what a finished coroutine awaits, at every moment.
* `children_traced`: what a collector sees, over all runs.
-/

namespace CoroutineEngine

variable {L : Language} {α : Type}

/-! ## Definitions -/

namespace CoroutineRecord

/-- What a collector visits of a coroutine that reports its children, in order: the cells, the parameters, the frame,
what is awaited, and the instance of a primed exception. -/
def children (r : CoroutineRecord L) : List Value :=
  r.inputs.closure.map .cell ++ r.inputs.parameters ++ r.frame.toList.map .frame ++ r.awaiting.toList
    ++ (r.pending.bind (·.value)).toList.map .exception

/-- What a coroutine owns in its state: of what it was built with, and of what it has got since. -/
def belongings (r : CoroutineRecord L) : List Value :=
  match r.status with
  | .unused => r.origin.closure.map .cell ++ r.origin.parameters
  | .running => r.origin.closure.map .cell ++ r.origin.parameters ++ r.frame.toList.map .frame ++ r.awaiting.toList
  | .finished => r.origin.closure.map .cell

/-- No panic has come out of the body of the coroutine, and no switch into it has failed. -/
structure IsUnscathed (r : CoroutineRecord L) : Prop where
  whole : r.IsWhole
  faults : r.history.faults = 0

end CoroutineRecord

/-- What a collector sees of a coroutine `i` in runs from a world.

* `kinds`: the report tells the kinds of what is visited, or nothing if the coroutine does not report.
* `built`: whether it reports is decided when it is built, by its blueprint or else by the active settings.
* `lasting`: that, and the inputs, stay what they were, whatever settings become active later.
* `listed`: at every moment, a coroutine that somebody holds and that is unscathed shows what it owns in its state,
  and besides a primed exception. It has its frame just while it is started.
* `unprimed`: an exception is primed at no moment, unless the coroutine was not started and asks for more stack than
  there are addresses.
* `thrown`: a throw into such a coroutine panics on every engine: nothing is executed before the panic.
* `calm`: what ends with a result, leaves no exception primed and the coroutine whole.
* `unlost`: unless its fibers are lost, no switch into the coroutine fails.
* `resting`: while the fiber is in its place, what is shown as awaited is what the body has delegated to.
* `executing`: the same is shown at every command of every body while the coroutine is executed, and, of its own
  body, at every command and as long as its delegations last.
* `left`: once the body is left, the coroutine shows what the body waits for, while the driver is put back.
* `driven`: between the requests of a driver, the coroutine shows just what its body has delegated to. -/
structure TracesState (W : Watch) (i : CoroutineId) (w : World L) : Prop where
  kinds : ∀ v : World L, v.coroutineChildren i =
    if (v.coroutine i).reportChildren then (v.coroutine i).children.map (·.typeName) else []
  built : ∀ (b : Blueprint) (v : World L), v.coroutines.size = i.index →
    ((makeCoroutine b v).2.coroutine i).origin =
      ⟨b.code, b.reportChildren.getD v.settings.reportChildren, b.parameters, b.closure⟩
  lasting : ∀ v u, Reaches W w v → Moment W v u → v.Has i →
    u.Has i ∧ (u.coroutine i).origin = (v.coroutine i).origin
  listed : ∀ v, Moment W w v → (v.coroutine i).handles ≠ 0 → (v.coroutine i).IsUnscathed →
    (v.coroutine i).children =
        (v.coroutine i).belongings ++ ((v.coroutine i).pending.bind (·.value)).toList.map .exception ∧
      ((v.coroutine i).frame ≠ none ↔ (v.coroutine i).status = .running)
  unprimed : ∀ v, Moment W w v → (v.coroutine i).pending ≠ none →
    (v.coroutine i).status = .unused ∧ (v.coroutine i).IsDoomed
  thrown : ∀ v, Moment W w v → v.Has i → (v.coroutine i).pending = none → (v.coroutine i).status = .unused →
    (v.coroutine i).IsDoomed → ∀ (E : Engine L) p, ∃ m u, throwPending E i p v = (.panic m, u)
  calm : ∀ v, Moment W w v → ∀ {α : Type} {k : Option CoroutineId} {x : Procedure L α} (n : Nat) a u,
    (k = some i → (v.coroutine i).IsExecuting) → Client k x → x (.watched L W n) v = (.ok a, u) →
      ((v.coroutine i).pending = none → (u.coroutine i).pending = none) ∧
        ((v.coroutine i).IsWhole → (u.coroutine i).IsWhole)
  unlost : ∀ v, Moment W w v → (v.coroutine i).supply.lossIn = none → (v.coroutine i).history.faults = 0
  resting : ∀ v, Moment W w v → (v.coroutine i).handles ≠ 0 → (v.coroutine i).history.faults = 0 →
    (v.coroutine i).fiber ≠ none → (v.coroutine i).awaiting = (v.coroutine i).delegated
  executing : ∀ alarm n v, Reaches W w v → ∀ {α : Type} {x : Procedure L α}, Client none x →
    x (.probed W alarm i n none) v = x (.watched L W n) v
  left : ∀ alarm n v (k : Context) a t exit u frame driver, v.Orderly → (v.coroutine i).IsCandid →
    k.coroutine = i → (v.coroutine i).IsAbroad a.waiting.awaited →
    (Engine.watched L W n).run (some k) a t v = (.ok exit, u) →
      leaveSwitch (.probed W alarm i n (some exit.awaited)) i frame driver false u =
        leaveSwitch (.watched L W n) i frame driver false u
  driven : W.strict = true → ∀ v, Reaches W w v → (v.coroutine i).handles ≠ 0 →
    (v.coroutine i).awaiting = (v.coroutine i).delegated

/-! ## Helpers -/

variable {W : Watch} {i : CoroutineId} {k : Option CoroutineId} {w v u : World L} {r : CoroutineRecord L} {T : Terms}
  {clock : Nat}

/-- Where a driver gets in a run, a law holds that it keeps. -/
theorem Reaches.start {Λ : Law L}
    (hx : ∀ (n : Nat) {α : Type} {x : Procedure L α}, Client none x → Λ.Kept (x (.watched L W n)))
    (hw : Λ.start w) (h : Reaches W w v) : Λ.start v := by
  induction h with
  | refl => exact hw
  | @step v _ x n _ hc hstop ih =>
    have hm := (hx n hc v ih).holds
    rcases hr : x (.watched L W n) v with ⟨_ | _ | _, u⟩ <;> rw [hr] at hm hstop
    · exact Λ.next hm
    · exact Λ.panic_next hm
    · exact absurd rfl hstop

theorem World.fresh_composing (i : CoroutineId) (clock : Nat) :
    (composing L i).start (World.fresh clock : World L) := by
  refine ⟨World.fresh_found i clock, ?_⟩
  rw [World.coroutine_eq_default (Nat.zero_le _)]
  exact .of_status (show Status.unused ≠ .finished by decide)

theorem composing_client (W : Watch) (hk : k ≠ some i) {x : Procedure L α} (hx : Client k x) (n : Nat) :
    (composing L i).Kept (x (.watched L W n)) :=
  have hE := composing_watched (L := L) W i n
  composing_personal.client hE.toAside hE.serves (fun h => absurd h hk) hx

theorem Reaches.composing (h : Reaches W (World.fresh clock) v) (i : CoroutineId) : (composing L i).start v :=
  h.start (fun n _ _ hx => composing_client W (by simp) hx n) (World.fresh_composing i clock)

/-- At every moment, a coroutine awaits nothing that has finished and is unscathed. -/
theorem Moment.composed (h : Moment W (World.fresh clock) v) (i : CoroutineId) : (v.coroutine i).IsComposed := by
  cases h with
  | @of v _ x n hv hx =>
    have hm := (composing_client W (by simp) hx n v (hv.composing i)).holds
    rcases hr : x (.watched L W n) v with ⟨_ | _ | _, u⟩ <;> rw [hr] at hm
    · exact hm.1.2
    · exact hm.1.2
    · exact hm.1

/-- What a coroutine was built with endures over all runs. -/
theorem Moment.endures (h : Moment W w v) (hw : w.Orderly) : v.Orderly ∧ Endures i w v :=
  h.invariant (P := fun v => v.Orderly ∧ Endures i w v) ⟨hw, .refl i w⟩ fun n hv hx =>
    have hE := enduring_watched (L := L) W i n
    ((enduring_tolerant.client (enduring_throwPending hE) hE hx).after hv).anyway

namespace CoroutineRecord

/-- A coroutine that somebody holds shows what it owns. -/
theorem IsSound.children_eq (h : r.IsSound T) (hf : r.IsFurnished) (hc : r.IsComposed) (hr : r.IsUnscathed)
    (hh : r.handles ≠ 0) :
    r.children = r.belongings ++ (r.pending.bind (·.value)).toList.map .exception := by
  have hinputs : r.inputs = _ := hf
  unfold CoroutineRecord.children belongings
  cases hs : r.status with
  | unused => 
    rw [hinputs, hs, (h.unused hs).frame, (h.unused hs).awaiting]
    simp [Inputs.new, origin]
  | running =>
    rw [hinputs, hs]
    simp [Inputs.new, origin]
  | finished =>
    rw [hinputs, hs, (h.finished hs).1, hc hh hs (hr.whole hh hs) hr.faults]
    simp [origin]

end CoroutineRecord

/-! ## What a collector sees -/

theorem World.coroutineChildren_eq (v : World L) (i : CoroutineId) : v.coroutineChildren i =
    if (v.coroutine i).reportChildren then (v.coroutine i).children.map (·.typeName) else [] := by
  simp [World.coroutineChildren, CoroutineRecord.children, Inputs.kinds, Function.comp_def, Value.typeName]

/-- What a collector sees of a coroutine follows its state in all runs. -/
theorem children_traced (W : Watch) (i : CoroutineId) (clock : Nat) :
    TracesState W i (World.fresh clock : World L) where
  kinds v := v.coroutineChildren_eq i
  built b v hi := by
    have hnew : (makeCoroutine b v).2.coroutine i = b.record v.settings := by
      rw [World.coroutine, makeCoroutine_coroutines, ← hi]
      exact Table.get_push_self _ _
    rw [hnew]
    rfl
  lasting v u hv hu hi := (hu.endures (hv.moment.tended i).orderly).2 hi
  listed v hv hh hr := by
    have hsound := (hv.keeps (World.fresh_lawful (W.terms i) i clock)).lawful.sound
    have hfurnished := (hv.stocks (World.fresh_stocked i clock).1).1.furnished hsound.toIsCoherent hh
    exact ⟨hsound.children_eq hfurnished (hv.composed i) hr hh,
      hsound.proper.frame fun ht => (hsound.torn ht.1).elim (fun h => ht.2 h) hh⟩
  unprimed v hv hp := (hv.keeps (World.fresh_lawful (W.terms i) i clock)).lawful.sound.pending.resolve_left hp
  thrown v hv hi hn hu hd E p := by
    have hlaw := (hv.keeps (World.fresh_lawful (W.terms i) i clock)).lawful
    have hrun : (v.coroutine i).running = false := by
      cases hr : (v.coroutine i).running with
      | false => rfl
      | true => exact absurd (hu.symm.trans (hlaw.sound.running hr).1) (by decide)
    obtain ⟨m, u, h, -⟩ := throwPending_doomed (E := E) ⟨hi, hlaw.orderly, rfl⟩ hu hrun hn hd p
    exact ⟨m, u, h⟩
  calm v hv α k x n a u hk hx hu := by
    have hlaw := (hv.keeps (World.fresh_lawful (W.terms i) i clock)).lawful
    refine ⟨?_, fun hw => ?_⟩
    · have hE := unpriming_watched (L := L) W i n
      exact ((unpriming_tolerant.client (unpriming_throwPending hE) hE hx v hlaw.orderly).ok hu).2
    · by_cases he : k = some i
      · -- the own body is still executing
        have hm := ((faithful_watched W i n).client hx v ⟨hlaw, hk⟩).ok hu
        exact fun _ hs => absurd ((hm.executing he).1.1.symm.trans hs) (by decide)
      · have hcandid : Found False i .resting v := ⟨hlaw.orderly, hv.candid i, fun h => h.elim⟩
        exact ((composing_client W he hx n v ⟨hcandid, hv.composed i⟩).ok hu).2.2 hw
  unlost v hv hl := (hv.keeps (World.fresh_lawful (W.terms i) i clock)).lawful.sound.faults hl
  resting v hv hh hf hfiber := by
    have hsound := (hv.keeps (World.fresh_lawful (W.terms i) i clock)).lawful.sound
    unfold CoroutineRecord.delegated
    cases hs : (v.coroutine i).status with
    | unused => exact (hv.candid i).idle hh hs
    | finished => exact hv.composed i hh hs hfiber hf
    | running =>
      obtain ⟨f, hf⟩ := Option.ne_none_iff_exists'.mp hfiber
      obtain ⟨⟨a, ha⟩, -⟩ := hsound.fiber f hf hs
      have hawaited : f.stack.awaited? = some a.waiting.awaited := by
        rw [ha]
        rfl
      simpa [hf, hawaited] using (hv.candid i).waiting hh hs f hf _ hawaited
  executing alarm n v hv _ _ hx :=
    ((((probed_attuned W alarm i n).1.attuned .resting).client (k := none) (by simp) hx) v (hv.found i)).same
  left alarm n v k a t exit u frame driver ho hc hk hv hu := by
    have hE := probed_attuned (L := L) W alarm i n
    have hm := (hE.1.body k a t v hk ⟨ho, hc, hv⟩).meets.holds
    rw [hu] at hm
    exact (((hE.2 exit.awaited).leaveSwitch frame driver) u hm.1).same
  driven hW v hv hh :=
    ((hv.found i).exact hW (hv.keeps (World.fresh_lawful (W.terms i) i clock)).lawful.sound hh).2

end CoroutineEngine
