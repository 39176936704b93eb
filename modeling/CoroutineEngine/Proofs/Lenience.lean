import CoroutineEngine.Proofs.Line

/-!
# Runs in which no release interferes

A watch ends a run as soon as something is released that interferes with what is watched, or does not come
to an end. What the engine itself does in such a run is told on an engine that leaves these releases out:
no release ends a run on it, and a run that the watch does not end is the same on both.

Results:
* `lenient_extends_watched`: a run that the watch does not end is the run on the lenient engine.
* `guarded_lenient`, `hosting_lenient`: the lenient engine disturbs nobody whom the watch looks at, and no
  release is cut.
-/

namespace CoroutineEngine

variable {L : Language} {α : Type}

/-! ## Definitions -/

namespace Engine

/-- An engine on which a release that would be cut is left out. -/
def skipping (E : Engine L) : Engine L where
  release v w :=
    match E.release v w with
    | (.stop, _) => (.ok (), w)
    | ending => ending
  run := E.run

/-- The engine up to a depth of nesting, each level under a watch, on which releases that would be cut are
left out. -/
def lenient (L : Language) (W : Watch) : Nat → Engine L
  | 0 => Engine.halted.skipping
  | n + 1 => (((lenient L W n).next n).under W).skipping

end Engine

/-! ## Helpers -/

variable {W : Watch} {E E' : Engine L}

theorem Meets.skipping_release {v : Value} {w : World L} {Q : Post L Unit}
    (h : Meets (E.release v) w ⟨Q.ok, Q.panic, fun _ => Q.ok () w⟩) :
    Meets (E.skipping.release v) w Q := by
  have hx := h.holds
  refine ⟨?_⟩
  simp only [Engine.skipping]
  rcases hw : E.release v w with ⟨_ | _ | _, u⟩ <;> rw [hw] at hx <;> exact hx

theorem Law.Kept.skipping_release {Λ : Law L} {v : Value} (h : Λ.Kept (E.release v)) :
    Λ.Kept (E.skipping.release v) := fun w hw =>
  .skipping_release ((h w hw).mono (fun _ _ h => h) (fun _ h => h) fun _ _ => Λ.refl hw)

/-- No release is cut. -/
theorem skipping_release (v : Value) (w : World L) : (E.skipping.release v w).1 ≠ .stop := by
  simp only [Engine.skipping]
  split
  · nofun
  · rename_i hne
    exact fun h => hne _ (Prod.ext h rfl)

theorem Heedful.skipping {i : CoroutineId} (h : Heedful i E) : Heedful i E.skipping where
  toUpheld := ⟨fun v => (h.release v).skipping_release, h.run⟩
  rests v := (h.rests v).skipping_release
  runs := h.runs

theorem Guarded.skipping (h : Guarded W E) : Guarded W E.skipping where
  heedful c := (h.heedful c).skipping
  release v w := .skipping_release ((h.release v w).mono (fun _ _ h => h) (fun _ h => h)
    fun _ _ => W.undisturbed _ w)
  run := h.run
  empty w := by simp only [Engine.skipping, h.empty]

theorem Guarded.halted (W : Watch) : Guarded W (.halted : Engine L) := guarded_watched W 0

/-- The watch looks at what the engine does one level of nesting further up. -/
theorem Guarded.under (h : Guarded W E) (n : Nat) : Guarded W ((E.next n).under W) where
  heedful c := (h.heedful c).under W n
  release := under_release_undisturbed W _
  run := under_run_undisturbed W _
  empty w := by
    show (if W.disturbed (w.engaged W.line) w w then _ else _) = _
    rw [if_neg (by simp [W.undisturbed])]
    rfl

/-- An engine that goes on further goes on further under a watch. -/
theorem Engine.Extends.under (h : E'.Extends E) (W : Watch) : (E'.under W).Extends (E.under W) := by
  constructor
  · intro v w hw
    have hne : (E.release v w).1 ≠ .stop := fun hs => by
      rcases hx : E.release v w with ⟨_ | _ | _, u⟩ <;> rw [hx] at hs <;> cases hs
      simp [Engine.under, hx] at hw
    simp only [Engine.under, h.release v w hne]
  · intro k a t w hw
    have hne : (E.run k a t w).1 ≠ .stop := fun hs => by
      rcases hx : E.run k a t w with ⟨_ | _ | _, u⟩ <;> rw [hx] at hs <;> cases hs
      simp [Engine.under, hx] at hw
    simp only [Engine.under, h.run k a t w hne]

theorem Engine.extends_skipping (E : Engine L) : E.skipping.Extends E := by
  refine ⟨fun v w hw => ?_, fun _ _ _ => .refl _⟩
  simp only [Engine.skipping]
  split
  · rename_i h
    exact absurd (congrArg Prod.fst h) hw
  · rfl

/-! ## The lenient engine -/

/-- A run that the watch does not end is the run on the lenient engine. -/
theorem lenient_extends_watched (W : Watch) (n : Nat) :
    (Engine.lenient L W n).Extends (.watched L W n) := by
  induction n with
  | zero => exact Engine.extends_skipping _
  | succ n ih => exact ((ih.next n).under W).trans (Engine.extends_skipping _)

/-- Nobody is disturbed whom the watch looks at. -/
theorem guarded_lenient (W : Watch) (n : Nat) : Guarded W (.lenient L W n) := by
  induction n with
  | zero => exact (Guarded.halted W).skipping
  | succ n ih => exact (ih.under n).skipping

/-- A line rests while requests are served, and no release is cut. -/
theorem hosting_lenient (W : Watch) (n : Nat) (S : World L → Prop) :
    Hosting W S (.lenient L W n) := by
  refine (guarded_lenient W n).hosting fun v w u h => absurd (congrArg Prod.fst h) ?_
  cases n with
  | zero => exact skipping_release v w
  | succ n => exact skipping_release v w

/-- What a client asks for goes the same way on the lenient engine and on the engine itself, unless the
watch ends it. -/
theorem Client.lenient_eq (W : Watch) (n : Nat) {k : Option CoroutineId} {x : Procedure L α}
    (hx : Client k x) {w : World L} (h : (x (.watched L W n) w).1 ≠ .stop) :
    x (.ofDepth L n) w = x (.lenient L W n) w :=
  (hx.watched_eq W n h).trans (hx.extends (lenient_extends_watched W n) w h).symm

end CoroutineEngine
