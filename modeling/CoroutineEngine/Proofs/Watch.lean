import CoroutineEngine.Proofs.Operations
import CoroutineEngine.Proofs.Requests

/-!
# Runs under a watch

Some statements are about runs in which certain things do not happen: no finalizer panics, no hook
meddles with what is handled, no body leaves an error in the slot, nobody but its driver makes requests on
a coroutine. Such a run is one on a watched engine, which ends the run as soon as one of them does happen.

Results:
* `watched_nothing`: a watch may let everything pass.
* `ofDepth_extends_watched`: a run that the watch does not end is the run without the watch.
* `Client.watched_eq`: the same for everything that a client asks for.
-/

namespace CoroutineEngine

variable {L : Language} {α : Type}

/-! ## Definitions -/

/-- What a watch does not let pass.

* `strict`: a panic out of the release of a handle.
* `civil`: a hook that leaves another exception handled.
* `steady`: a hook that leaves another frame on top.
* `silent`: a hook that runs at all.
* `tidy`: a body of this coroutine that leaves an error in the slot.
* `line`: a request on one of these coroutines, of which each delegates to the next, unless it is made by
  the one before; a request on the first one is left to the driver. Besides, a panic of one of their
  bodies.
* `exclusive`: that a handle of one of them is taken or given up, unless the one before does so. -/
structure Watch where
  strict : Bool := false
  civil : Bool := false
  steady : Bool := false
  silent : Bool := false
  tidy : Option CoroutineId := none
  line : List CoroutineId := []
  exclusive : Bool := false

/-- Whether a run of a program is the run of a body of a coroutine. -/
def isBodyOf (c : Option CoroutineId) : Option Context → Bool
  | some k => c == some k.coroutine
  | none => false

/-- The coroutines of a line that somebody in the line has a claim on: the first one, and each whose
predecessor was not started or delegates to it. -/
def World.engaged (w : World L) : List CoroutineId → List CoroutineId
  | [] => []
  | c :: rest =>
    c :: if (w.coroutine c).status == .unused || (w.coroutine c).awaiting.isSome then w.engaged rest
      else []

/-- The coroutines of a line that the run of a program has no claim on: for a body in the line, those up
to its own. -/
def upTo (k : Option Context) : List CoroutineId → List CoroutineId
  | [] => []
  | c :: rest => c :: if isBodyOf (some c) k then [] else upTo k rest

/-- One of some coroutines was visited between two worlds. -/
def visited (cs : List CoroutineId) (w w' : World L) : Bool :=
  cs.any fun c => (w'.coroutine c).history.visits != (w.coroutine c).history.visits

/-- The handles of one of some coroutines are not as many in one world as in another. -/
def recounted (cs : List CoroutineId) (w w' : World L) : Bool :=
  cs.any fun c => (w'.coroutine c).handles != (w.coroutine c).handles

/-- One of some coroutines was disturbed between two worlds. -/
def Watch.disturbed (W : Watch) (cs : List CoroutineId) (w w' : World L) : Bool :=
  visited cs w w' || W.exclusive && recounted cs w w'

/-- The watch does not let pass what a run of a program has done. -/
def Watch.objects (W : Watch) (k : Option Context) (w w' : World L) : Bool :=
  (k.isNone && (W.silent || W.civil && w'.ambient.handled != w.ambient.handled
      || W.steady && w'.ambient.top != w.ambient.top))
    || (isBodyOf W.tidy k && w'.ambient.error.isSome)
    || W.disturbed (upTo k (w.engaged W.line)) w w'

/-- The run of a program is that of a body in the line. -/
def Watch.answersFor (W : Watch) (k : Option Context) : Bool := W.line.any fun c => isBodyOf (some c) k

namespace Engine

/-- The engine one level of nesting above another one. -/
def next (E : Engine L) (n : Nat) : Engine L where
  release := releaseHandle E
  run k a t := runBody E k n a t

/-- An engine under a watch. -/
def under (W : Watch) (E : Engine L) : Engine L where
  release v w :=
    if W.disturbed (w.engaged W.line) w (E.release v w).2 then (.stop, (E.release v w).2)
    else
      match E.release v w with
      | (.panic m, w') => if W.strict then (.stop, w') else (.panic m, w')
      | ending => ending
  run k a t w :=
    if W.objects k w (E.run k a t w).2 then (.stop, (E.run k a t w).2)
    else
      match E.run k a t w with
      | (.panic m, w') => if W.answersFor k then (.stop, w') else (.panic m, w')
      | ending => ending

/-- The engine up to a depth of nesting, each level under a watch. -/
def watched (L : Language) (W : Watch) : Nat → Engine L
  | 0 => .halted
  | n + 1 => ((watched L W n).next n).under W

/-- An engine goes on wherever another one does, and in the same way. -/
structure Extends (E' E : Engine L) : Prop where
  release : ∀ v, (E'.release v).Extends (E.release v)
  run : ∀ k a t, (E'.run k a t).Extends (E.run k a t)

end Engine

/-! ## Helpers -/

theorem Composed.releaseAll_extends {E E' : Engine L} (h : E'.Extends E) (vs : List Value) :
    (E'.releaseAll vs).Extends (E.releaseAll vs) := by
  induction vs with
  | nil => exact .refl _
  | cons v vs ih => exact .andFinally (h.release v) ih

theorem runHook_extends {E E' : Engine L} (h : E'.Extends E) (hook : Hook L) (object : String)
    (e : Exception) : (runHook E' hook object e).Extends (runHook E hook object e) := by
  refine .bind (.refl _) fun _ => .bind (.refl _) fun _ => .bind (.refl _) fun _ =>
    .bind (.refl _) fun _ => .bind (.refl _) fun _ => .bind (h.run _ _ _) fun exit => ?_
  rcases exit with ⟨v, a⟩ | v | e
  · exact Composed.releaseAll_extends h _
  · exact h.release _
  · exact h.release _

theorem writeUnraisable_extends {E E' : Engine L} (h : E'.Extends E) (object : String)
    (e : Exception) : (writeUnraisable E' object e).Extends (writeUnraisable E object e) := by
  refine .andFinally (.bind (.refl _) fun hook => ?_) (h.release _)
  cases hook with
  | none => exact .refl _
  | some hook =>
    refine .bind (.onPanic (runHook_extends h _ _ _) (Composed.releaseAll_extends h _)) fun _ =>
      .bind (.refl _) fun displaced => ?_
    cases displaced with
    | none => exact .refl _
    | some displaced =>
      exact .bind (.refl _) fun _ => .andFinally (Composed.releaseAll_extends h _) (.refl _)

theorem RequestAtom.extends {E E' : Engine L} (h : E'.Extends E) {c : Option CoroutineId}
    {x : Procedure L α} (hx : RequestAtom c x) : (x E').Extends (x E) := by
  cases hx with
  | quiet _ => exact .refl _
  | release v => exact h.release v
  | report o e => exact writeUnraisable_extends h o e
  | own _ _ _ => exact .refl _
  | run k a t _ => exact h.run k a t

theorem Request.extends {E E' : Engine L} (h : E'.Extends E) {c : Option CoroutineId}
    {x : Procedure L α} (hx : Request c x) : (x E').Extends (x E) :=
  Composed.extends (fun hx => RequestAtom.extends h hx) hx

theorem Holder.extends {E E' : Engine L} (h : E'.Extends E) {c : CoroutineId}
    {x : Procedure L α} (hx : Holder c x) : (x E').Extends (x E) := by
  refine Composed.extends (fun hx => ?_) hx
  cases hx with
  | request hx => exact RequestAtom.extends h hx
  | held _ => exact .refl _
  | withdraw => exact .refl _

theorem Client.extends {E E' : Engine L} (h : E'.Extends E) {k : Option CoroutineId}
    {x : Procedure L α} (hx : Client k x) : (x E').Extends (x E) := by
  refine Composed.extends ?_ hx
  intro α x hx
  cases hx with
  | quiet _ => exact .refl _
  | release v => exact h.release v
  | send c v => exact Request.extends h (c := some c) (Request.send v)
  | throwPending c p => exact Request.extends h (c := some c) (Request.throwPending p)
  | close c => exact Request.extends h (c := some c) Request.close
  | report o e => exact writeUnraisable_extends h o e
  | await _ _ _ => exact .refl _

namespace Engine

theorem Extends.next {E E' : Engine L} (h : E'.Extends E) (n : Nat) :
    (E'.next n).Extends (E.next n) := by
  constructor
  · intro v
    refine Composed.extends ?_ (Release.releaseHandle v)
    intro α x hx
    cases hx with
    | discreet _ => exact .refl _
    | release v => exact h.release v
    | coroutine c => exact Holder.releaseCoroutine.extends h
  · exact fun k a t => (Client.runBody n a t).extends h

theorem Extends.trans {E E' E'' : Engine L} (h : E'.Extends E) (h' : E''.Extends E') :
    E''.Extends E := by
  constructor
  · intro v w hw
    rw [h'.release v w (by rw [h.release v w hw]; exact hw), h.release v w hw]
  · intro k a t w hw
    rw [h'.run k a t w (by rw [h.run k a t w hw]; exact hw), h.run k a t w hw]

/-- A watch ends a run early, and otherwise changes nothing. -/
theorem extends_under (W : Watch) (E : Engine L) : E.Extends (E.under W) := by
  constructor
  · intro v w hw
    simp only [under] at hw ⊢
    split at hw
    · exact absurd rfl hw
    · rename_i hv
      simp only [hv, Bool.false_eq_true, if_false]
      split at hw
      · split at hw
        · exact absurd rfl hw
        · rename_i h hs
          simp [h, hs]
      · rfl
  · intro k a t w hw
    simp only [under] at hw ⊢
    split at hw
    · exact absurd rfl hw
    · rename_i ho
      simp only [ho, Bool.false_eq_true, if_false]
      split at hw
      · split at hw
        · exact absurd rfl hw
        · rename_i h hs
          simp [h, hs]
      · rfl

/-- A watch that lets everything pass changes nothing. -/
theorem under_nothing (E : Engine L) : E.under {} = E := by
  have same (E' : Engine L) (release : ∀ v w, E'.release v w = E.release v w)
      (run : ∀ k a t w, E'.run k a t w = E.run k a t w) : E' = E := by
    cases E
    cases E'
    congr
    · funext v w
      exact release v w
    · funext k a t w
      exact run k a t w
  refine same _ (fun v w => ?_) fun k a t w => ?_
  · have hv (w' : World L) : Watch.disturbed {} (w.engaged []) w w' = false := rfl
    simp only [under, hv, Bool.false_eq_true, if_false]
    split <;> simp_all
  · have ho (w' : World L) : Watch.objects {} k w w' = false := by cases k <;> rfl
    have ha : Watch.answersFor {} k = false := rfl
    simp only [under, ho, ha, Bool.false_eq_true, if_false]
    split <;> simp_all

/-- The engine under a watch that lets everything pass is the engine. -/
theorem watched_nothing (n : Nat) : watched L {} n = ofDepth L n := by
  induction n with
  | zero => rfl
  | succ n ih =>
    show ((watched L {} n).next n).under {} = _
    rw [under_nothing, ih]
    rfl

end Engine

/-- A release under a watch. -/
theorem Meets.under_release {W : Watch} {E : Engine L} {v : Value} {w : World L} {Q : Post L Unit}
    (h : Meets (E.release v) w
      ⟨fun a u => Q.stop u ∧ (W.disturbed (w.engaged W.line) w u = false → Q.ok a u),
        fun u => Q.stop u ∧
          (W.disturbed (w.engaged W.line) w u = false → W.strict = false → Q.panic u),
        Q.stop⟩) : Meets ((E.under W).release v) w Q := by
  have hx := h.holds
  refine ⟨?_⟩
  simp only [Engine.under]
  rcases hw : E.release v w with ⟨_ | m | _, u⟩ <;> rw [hw] at hx <;>
    rcases hv : W.disturbed (w.engaged W.line) w u with _ | _ <;>
      simp only [Bool.false_eq_true, if_true, if_false]
  · exact hx.2 hv
  · exact hx.1
  · rcases hs : W.strict with _ | _
    · exact hx.2 hv hs
    · exact hx.1
  · exact hx.1
  · exact hx
  · exact hx

/-- A run of a program under a watch. -/
theorem Meets.under_run {W : Watch} {E : Engine L} {k : Option Context} {a : Activation L}
    {t : Transfer} {w : World L} {Q : Post L (Exit L)}
    (h : Meets (E.run k a t) w
      ⟨fun exit u => Q.stop u ∧ (W.objects k w u = false → Q.ok exit u),
        fun u => Q.stop u ∧
          (W.objects k w u = false → W.answersFor k = false → Q.panic u), Q.stop⟩) :
    Meets ((E.under W).run k a t) w Q := by
  have hx := h.holds
  refine ⟨?_⟩
  simp only [Engine.under]
  rcases hw : E.run k a t w with ⟨_ | m | _, u⟩ <;> rw [hw] at hx <;>
    rcases ho : W.objects k w u with _ | _ <;>
      simp only [Bool.false_eq_true, if_true, if_false]
  · exact hx.2 ho
  · exact hx.1
  · rcases hs : W.answersFor k with _ | _
    · exact hx.2 ho hs
    · exact hx.1
  · exact hx.1
  · exact hx
  · exact hx

/-- A law that lets a run be cut where a computation is over is kept under a watch. -/
theorem Law.Kept.under_release {W : Watch} {E : Engine L} {Λ : Law L} {v : Value}
    (hcut : ∀ {w u}, Λ.step w u → Λ.cut w u) (h : Λ.Kept (E.release v)) :
    Λ.Kept ((E.under W).release v) := fun w hw =>
  .under_release ((h w hw).mono (fun _ _ hu => ⟨hcut hu, fun _ => hu⟩)
    (fun _ hu => ⟨Λ.cut_of_panic hu, fun _ _ => hu⟩) fun _ hu => hu)

theorem Law.Kept.under_run {W : Watch} {E : Engine L} {Λ : Law L} {k : Option Context}
    {a : Activation L} {t : Transfer} (hcut : ∀ {w u}, Λ.step w u → Λ.cut w u)
    (h : Λ.Kept (E.run k a t)) : Λ.Kept ((E.under W).run k a t) := fun w hw =>
  .under_run ((h w hw).mono (fun _ _ hu => ⟨hcut hu, fun _ => hu⟩)
    (fun _ hu => ⟨Λ.cut_of_panic hu, fun _ _ => hu⟩) fun _ hu => hu)

/-- A run that the watch does not end is the run without the watch. -/
theorem ofDepth_extends_watched (W : Watch) (n : Nat) :
    (Engine.ofDepth L n).Extends (Engine.watched L W n) := by
  induction n with
  | zero => exact ⟨fun _ => .refl _, fun _ _ _ => .refl _⟩
  | succ n ih => exact (Engine.extends_under W _).trans (ih.next n)

/-- What a client asks for goes the same way without the watch, unless the watch ends it. -/
theorem Client.watched_eq (W : Watch) (n : Nat) {k : Option CoroutineId} {x : Procedure L α}
    (hx : Client k x) {w : World L} (h : (x (.watched L W n) w).1 ≠ .stop) :
    x (.ofDepth L n) w = x (.watched L W n) w :=
  hx.extends (ofDepth_extends_watched W n) w h

/-- There is nothing to release in an empty value. -/
theorem release_none_watched (W : Watch) (n : Nat) (w : World L) :
    (Engine.watched L W n).release .none w = (.ok (), w) := by
  cases n with
  | zero => rfl
  | succ n =>
    have hv (cs : List CoroutineId) : W.disturbed cs w w = false := by
      simp [Watch.disturbed, visited, recounted]
    show (if W.disturbed (w.engaged W.line) w w then (Outcome.stop, w) else (.ok (), w)) = _
    rw [hv]
    rfl

end CoroutineEngine
