import CoroutineEngine.Proofs.Reports
import CoroutineEngine.Proofs.Watch

/-!
# Laws that hold whatever is done

Some laws make no difference between coroutines, clients and bodies. Such a law is kept by whatever a client
asks for, and by the engine at every depth of nesting, as soon as a few kinds of computations keep it.

Results:
* `Law.Universal.client`, `Law.Universal.holder`: procedures keep such a law.
* `Law.Universal.watched`, `Law.Universal.ofDepth`: so do engines.
-/

namespace CoroutineEngine

variable {L : Language} {α : Type}

/-! ## Definitions -/

/-- A law that is kept by quiet computations, by changes of the record of any coroutine, by withdrawals from
the registry, and by reports if the engine keeps it. Where it holds at the end, it holds of a cut there. -/
structure Law.Universal (Λ : Law L) : Prop where
  quiet : ∀ {α : Type} {x : Effect L α}, Quiet x → Λ.Kept x
  held : ∀ {c : CoroutineId} {α : Type} {x : Effect L α}, Held c x → Λ.Kept x
  withdraw : ∀ c : CoroutineId, Λ.Kept (untrackObject (.coroutine c) : Effect L Bool)
  report : ∀ {E : Engine L}, (∀ v, Λ.Kept (E.release v)) → (∀ a t, Λ.Kept (E.run none a t)) →
    ∀ object e, Λ.Kept (writeUnraisable E object e)
  cut : ∀ {w v}, Λ.step w v → Λ.cut w v

/-- An engine that keeps a law. -/
structure Law.Upheld (Λ : Law L) (E : Engine L) : Prop where
  release : ∀ v, Λ.Kept (E.release v)
  run : ∀ k a t, Λ.Kept (E.run k a t)

/-! ## Procedures -/

namespace Law.Universal

variable {Λ : Law L} {E : Engine L}

theorem atom (h : Λ.Universal) (hE : Λ.Upheld E) {c : Option CoroutineId} {x : Procedure L α}
    (hx : RequestAtom c x) : Λ.Kept (x E) := by
  cases hx with
  | quiet hx => exact h.quiet hx
  | release v => exact hE.release v
  | report object e => exact h.report hE.release (hE.run none) object e
  | own _ _ hx => exact h.held hx.held
  | run k a t _ => exact hE.run k a t

theorem request (h : Λ.Universal) (hE : Λ.Upheld E) {c : Option CoroutineId} {x : Procedure L α}
    (hx : Request c x) : Λ.Kept (x E) := Composed.kept (fun hx => h.atom hE hx) hx

theorem holder (h : Λ.Universal) (hE : Λ.Upheld E) {c : CoroutineId} {x : Procedure L α}
    (hx : Holder c x) : Λ.Kept (x E) := by
  refine Composed.kept (fun hx => ?_) hx
  cases hx with
  | request hx => exact h.atom hE hx
  | held hx => exact h.held hx
  | withdraw => exact h.withdraw c

theorem releaseHandle (h : Λ.Universal) (hE : Λ.Upheld E) (v : Value) :
    Λ.Kept (releaseHandle E v) := by
  refine Composed.kept (fun hx => ?_) (Release.releaseHandle v)
  cases hx with
  | discreet hx => exact h.quiet hx.quiet
  | release v => exact hE.release v
  | coroutine c => exact h.holder hE Holder.releaseCoroutine

theorem client (h : Λ.Universal) (hE : Λ.Upheld E) {k : Option CoroutineId} {x : Procedure L α}
    (hx : Client k x) : Λ.Kept (x E) := by
  refine Composed.kept (fun hx => ?_) hx
  cases hx with
  | quiet hx => exact h.quiet hx
  | release v => exact hE.release v
  | send c v => exact h.request hE (c := some c) (Request.send v)
  | throwPending c p => exact h.request hE (c := some c) (Request.throwPending p)
  | close c => exact h.request hE (c := some c) Request.close
  | report object e => exact h.report hE.release (hE.run none) object e
  | await c v _ => exact h.held (updateCoroutine_held c fun _ => Nat.le_refl _)

/-! ## Engines -/

theorem next (h : Λ.Universal) (hE : Λ.Upheld E) (n : Nat) : Λ.Upheld (E.next n) :=
  ⟨h.releaseHandle hE, fun _ a t => h.client hE (Client.runBody n a t)⟩

theorem under (h : Λ.Universal) (hE : Λ.Upheld E) (W : Watch) : Λ.Upheld (E.under W) :=
  ⟨fun v => (hE.release v).under_release h.cut, fun k a t => (hE.run k a t).under_run h.cut⟩

theorem halted (h : Λ.Universal) : Λ.Upheld (.halted : Engine L) := by
  refine ⟨fun v w hw => ?_, fun _ _ _ w hw => ⟨h.cut (Λ.refl hw)⟩⟩
  show Meets (if v.isNone then pure () else .stop) w _
  split
  · exact .pure (Λ.refl hw)
  · exact ⟨h.cut (Λ.refl hw)⟩

/-- Under a watch, engines of any depth keep the law. -/
theorem watched (h : Λ.Universal) (W : Watch) (n : Nat) : Λ.Upheld (.watched L W n) := by
  induction n with
  | zero => exact h.halted
  | succ n ih => exact h.under (h.next ih n) W

/-- So do they without a watch. -/
theorem ofDepth (h : Λ.Universal) (n : Nat) : Λ.Upheld (.ofDepth L n) :=
  Engine.watched_nothing (L := L) n ▸ h.watched {} n

end Law.Universal

end CoroutineEngine
