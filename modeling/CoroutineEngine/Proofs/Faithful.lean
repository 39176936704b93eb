import CoroutineEngine.Proofs.Courtesy
import CoroutineEngine.Proofs.Standing

/-!
# Engines on which the law holds

The law of a coroutine's record is stated of what is written for an engine. Here it is stated of the
engine itself: of its releases and its runs.

Results:
* `Faithful.request`, `Faithful.holder`: requests on other coroutines and their release keep the law.
* `Faithful.report`: so does the report of an error that nobody can receive.
-/

namespace CoroutineEngine

variable {L : Language} {α : Type} {T : Terms} {i : CoroutineId}

/-! ## Definitions -/

/-- An engine keeps the law of the record of a coroutine. In civil runs its releases leave alone what
is handled. -/
structure Faithful (T : Terms) (i : CoroutineId) (E : Engine L) : Prop where
  release : ∀ v, (gentle L T i).Kept (E.release v)
  empty : ∀ w, E.release .none w = (.ok (), w)
  run : ∀ k a t, (standing L T i (k.map (·.coroutine))).Kept (E.run k a t)
  tidy : T.tidy → ∀ k a t w, isBodyOf (some i) k = true → Meets (E.run k a t) w
    ⟨fun _ v => v.ambient.error = none, fun v => v.ambient.error = none, fun _ => True⟩
  courteous : T.civil → Courteous False false E

/-! ## Helpers -/

theorem isBodyOf_iff {k : Option Context} :
    isBodyOf (some i) k = true ↔ k.map (·.coroutine) = some i := by
  cases k with
  | none => simp [isBodyOf]
  | some k =>
    simp only [isBodyOf, beq_iff_eq, Option.map_some]
    exact eq_comm

/-- Reports can be told of: what they do besides running a program leaves the coroutine in peace. -/
theorem standing_reported : (standing L T i none).Reported where
  orderly h := h.1.orderly
  discreet hx _ := standing_quiet hx
  exchange {w} hook h hk :=
    standing_of_undisturbed h (.ambient w { w.ambient with hook } fun ho => ⟨ho.borrowed, hk⟩)

namespace Faithful

variable {E : Engine L}

theorem releaseAll (hE : Faithful T i E) (vs : List Value) :
    (gentle L T i).Kept (E.releaseAll vs) := .releaseAll hE.release vs

theorem owning (hE : Faithful T i E) {k : Option CoroutineId} (vs : List Value) {x : Effect L α}
    (hx : (standing L T i k).Kept x) : (standing L T i k).Kept (E.owning vs x) :=
  hx.onPanic (gentle_anyone (hE.releaseAll vs))

/-- The report of an error keeps the law. -/
theorem report (hE : Faithful T i E) (object : String) (e : Exception) :
    (standing L T i none).Kept (writeUnraisable E object e) :=
  standing_reported.report (fun v => gentle_anyone (hE.release v)) (fun a t => hE.run none a t)
    object e

theorem atom (hE : Faithful T i E) {c : Option CoroutineId} (hc : c ≠ some i) {x : Procedure L α}
    (hx : RequestAtom c x) : (standing L T i none).Kept (x E) := by
  cases hx with
  | quiet hx => exact standing_quiet hx
  | release v => exact gentle_anyone (hE.release v)
  | report object e => exact hE.report object e
  | own j hj hx => exact standing_other (fun he => hc (by rw [hj, he])) hx.held
  | run k a t hk =>
    have hki : k.map (·.coroutine) ≠ some i := by
      intro h
      obtain ⟨x, hx, he⟩ := Option.map_eq_some_iff.mp h
      exact hc (by rw [hk x hx, he])
    exact standing_stranger hki (hE.run k a t)

/-- Requests on other coroutines keep the law. -/
theorem request (hE : Faithful T i E) {c : Option CoroutineId} (hc : c ≠ some i)
    {x : Procedure L α} (hx : Request c x) : (standing L T i none).Kept (x E) :=
  Composed.kept (fun hx => hE.atom hc hx) hx

/-- So does what the holders of other coroutines do. -/
theorem holder (hE : Faithful T i E) {c : CoroutineId} (hc : c ≠ i) {x : Procedure L α}
    (hx : Holder c x) : (standing L T i none).Kept (x E) := by
  refine Composed.kept (fun hx => ?_) hx
  cases hx with
  | request hx => exact hE.atom (fun h => hc (Option.some.inj h)) hx
  | held hx => exact standing_other hc hx
  | withdraw => exact standing_harmless (untrackObject_mild _).harmless

end Faithful

end CoroutineEngine
