import CoroutineEngine.Proofs.Parting

/-!
# An exception on its way out of bodies

While an exception is on its way from body to body, handles are released, and what is released may run any
body. On an escorted engine the run is cut as soon as somebody lays hands on the exception: on its traceback,
or on the line of a frame that it has left.

Results:
* `Untouched.trans`: what is left alone over computations in a row.
* `ofDepth_extends_escort`: the engine goes on wherever the escorted one does, and in the same way.
* `escorting_escort`: on the escorted engine releases leave the exception alone.
-/

namespace CoroutineEngine

variable {L : Language} {α β : Type}

/-! ## Definitions -/

/-- Cuts the run unless a computation ends with a result that is as it should be. -/
def Effect.only (x : Effect L α) (good : World L → α → World L → Bool) : Effect L α := fun w =>
  match x w with
  | (.ok a, v) => if good w a v then (.ok a, v) else (.stop, v)
  | (_, v) => (.stop, v)

/-- What has to be left alone while an exception is on its way: its traceback or not, and the lines of some of
the frames that it has left. -/
structure Care where
  traceback : Bool
  line : Frame → Bool

/-- Whether in two worlds an exception has the same traceback, and frames are at the same lines, as far as that
is cared for. -/
def spares (e : Exception) (care : Care) (frames : List Frame) (w v : World L) : Bool :=
  (!care.traceback || (v.exception e).traceback == (w.exception e).traceback) &&
    frames.all fun f => !care.line f || (v.frame f).line == (w.frame f).line

/-- Whether a body ends by raising an instance. -/
def Exit.raisesOnly (e : Exception) : Exit L → Bool
  | .completed (.error e') => e' == e
  | .completed (.ok _) | .suspended _ _ => false

/-- How a body is let go on at a depth of nesting. -/
abbrev BodyRun (L : Language) := Nat → Option Context → Activation L → Transfer → Effect L (Exit L)

/-- The engine as an escort of an exception, for requests on an await chain of which the frames are given, the
first link first.

A release has to leave alone what is cared for. A body that awaits the next link goes on when that has
answered; it has to end by raising the exception, and to leave alone what is cared for, of the frames those
after its own. The body of the last link goes on as is given. -/
def Engine.escort (e : Exception) (care : Care) (last : BodyRun L) : Nat → List Frame → Engine L
  | 0, _ => .halted
  | n + 1, frames =>
    { release := fun v => (releaseHandle (.ofDepth L n) v).only fun w _ u => spares e care frames w u
      run := fun k a t =>
        match frames.tail, a.waiting with
        | [], _ => last n k a t
        | inner, .delegate d => do
          let p ← passOn (escort e care last n inner) k { a with waiting := .start } d t
          (proceedFrom (.ofDepth L n) k n p).only fun w exit u => exit.raisesOnly e && spares e care inner w u
        | _, _ => .stop }

/-- Between two worlds an exception was left alone on its way, as far as it is cared for; no object was lost, and
who was finished is. -/
structure Untouched (e : Exception) (care : Care) (frames : List Frame) (w v : World L) : Prop
    extends Grown w v where
  traceback : care.traceback = true → (v.exception e).traceback = (w.exception e).traceback
  lines : ∀ f ∈ frames, care.line f = true → (v.frame f).line = (w.frame f).line
  finished : ∀ c, (w.coroutine c).status = .finished → (v.coroutine c).status = .finished

/-- A computation that always gives a result, and changes no coroutine, no instance, no wrapper, no line of a
frame, and nothing of the ambient state. -/
structure Aside (x : Effect L α) : Prop where
  sure : Sure x
  exceptions : ∀ w, (x w).2.exceptions = w.exceptions
  wrappers : ∀ w, (x w).2.wrappers = w.wrappers
  lines : ∀ w f, ((x w).2.frame f).line = (w.frame f).line

/-- An engine on which releases leave an exception alone, and do not panic. -/
structure Escorting (e : Exception) (care : Care) (frames : List Frame) (E : Engine L) : Prop where
  release : ∀ v w, w.Orderly →
    Meets (E.release v) w ⟨fun _ u => u.Orderly ∧ Untouched e care frames w u, fun _ => False, fun _ => True⟩
  empty : ∀ w, E.release .none w = (.ok (), w)

/-! ## Helpers -/

variable {e : Exception} {care : Care} {frames : List Frame} {w v u : World L} {E : Engine L}

namespace Untouched

theorem refl (e : Exception) (care : Care) (frames : List Frame) (w : World L) : Untouched e care frames w w :=
  ⟨.refl w, fun _ => rfl, fun _ _ _ => rfl, fun _ h => h⟩

theorem trans (h : Untouched e care frames w v) (h' : Untouched e care frames v u) : Untouched e care frames w u :=
  ⟨h.toGrown.trans h'.toGrown, fun hc => (h'.traceback hc).trans (h.traceback hc),
    fun f hf hc => (h'.lines f hf hc).trans (h.lines f hf hc), fun c => h'.finished c ∘ h.finished c⟩

/-- A change of the record of a coroutine that is no return from being finished. -/
theorem modified {i : CoroutineId} {g : CoroutineRecord L → CoroutineRecord L}
    (hg : (w.coroutine i).status = .finished → (g (w.coroutine i)).status = .finished) :
    Untouched e care frames w (w.modifyCoroutine i g) := by
  refine ⟨.modifyCoroutine w i g, fun _ => rfl, fun _ _ _ => rfl, fun c hc => ?_⟩
  by_cases hci : c = i
  · subst hci
    rw [(modified_of_has (World.has_of_finished hc) g).2]
    exact hg hc
  · rw [(modified_other w (Ne.symm hci) g).2]
    exact hc

end Untouched

/-- The law of an exception on its way, while nothing panics. -/
def tracing (L : Language) (e : Exception) (care : Care) (frames : List Frame) : Law L where
  start := World.Orderly
  step w v := v.Orderly ∧ Untouched e care frames w v
  panic _ _ := False
  cut _ _ := True
  refl h := ⟨h, .refl e care frames _⟩
  next h := h.1
  trans h h' := ⟨h'.1, h.2.trans h'.2⟩
  step_panic _ h := h
  step_cut _ _ := trivial
  panic_next h := h.elim
  panic_step h _ := h
  panic_cut _ _ := trivial
  cut_of_panic _ := trivial

/-! ### Computations that keep the law -/

theorem tracing_ok {x : Effect L α}
    (hx : ∀ w : World L, w.Orderly → ∃ a v, x w = (.ok a, v) ∧ v.Orderly ∧ Untouched e care frames w v) :
    (tracing L e care frames).Kept x := fun w hw =>
  have ⟨_, _, heq, hv⟩ := hx w hw
  .of_ok heq hv

theorem Aside.apply {x : Effect L α} (hx : Aside x) (w : World L) : ∃ a, x w = (.ok a, (x w).2) :=
  (hx.sure.2 w).imp fun _ => ends_of

theorem Sure.orderly {x : Effect L α} (hx : Sure x) (hw : w.Orderly) : (x w).2.Orderly := by
  have ha := hx.1.aloof w
  exact ⟨by rw [ha]; exact hw.borrowed, by rw [ha]; exact hw.hook⟩

theorem tracing_aside {x : Effect L α} (hx : Aside x) : (tracing L e care frames).Kept x :=
  tracing_ok fun w hw => by
    obtain ⟨a, ha⟩ := hx.apply w
    refine ⟨a, _, ha, hx.sure.orderly hw, hx.sure.1.grown w, fun _ => ?_, fun f _ _ => hx.lines w f, fun c hs => ?_⟩
    · rw [World.exception, World.exception, hx.exceptions w]
    · rwa [World.coroutine, hx.sure.1.coroutines w]

/-- An access to the ambient state that leaves the hook in its place. -/
theorem tracing_ambient {g : Ambient L → α × Ambient L} (hb : ∀ a, (g a).2.borrowed = a.borrowed)
    (hh : ∀ a, (g a).2.hook = a.hook) : (tracing L e care frames).Kept (withAmbient g) :=
  tracing_ok fun _ hw => by
    refine ⟨_, _, withAmbient_ok hw, ⟨(hb _).trans hw.borrowed, fun k hk => hw.hook k ((hh _).symm.trans hk)⟩, ?_⟩
    exact ⟨.of_fields rfl rfl rfl rfl rfl, fun _ => rfl, fun _ _ _ => rfl, fun _ h => h⟩

theorem tracing_update {i : CoroutineId} {g : CoroutineRecord L → α × CoroutineRecord L}
    (hg : ∀ r, r.status = .finished → (g r).2.status = .finished) :
    (tracing L e care frames).Kept (updateCoroutine i g) :=
  tracing_ok fun _ hw => ⟨_, _, rfl, ⟨hw.borrowed, hw.hook⟩, .modified (hg _)⟩

/-- A note about a coroutine that depends on the world. -/
theorem tracing_note {i : CoroutineId} {g : World L → CoroutineRecord L → CoroutineRecord L}
    (hg : ∀ w r, r.status = .finished → (g w r).status = .finished) :
    (tracing L e care frames).Kept (.modify fun w => w.modifyCoroutine i (g w)) :=
  tracing_ok fun w hw => ⟨_, _, rfl, ⟨hw.borrowed, hw.hook⟩, .modified (hg w _)⟩

theorem log_aside (level : LogLevel) (message : String) (fields : List (String × Datum)) :
    Aside (log level message fields : Effect L Unit) where
  sure := log_sure _ _ _
  exceptions w := by
    simp only [log, Effect.modify]
    repeat' split
    all_goals rfl
  wrappers w := by
    simp only [log, Effect.modify]
    repeat' split
    all_goals rfl
  lines w f := by
    simp only [log, Effect.modify]
    repeat' split
    all_goals rfl

theorem logCoroutine_aside (level : LogLevel) (message : String) (i : CoroutineId)
    (fields : List (String × Datum)) : Aside (logCoroutine level message i fields : Effect L Unit) where
  sure := logCoroutine_sure _ _ _ _
  exceptions w := (log_aside _ _ _).exceptions w
  wrappers w := (log_aside _ _ _).wrappers w
  lines w := (log_aside _ _ _).lines w

/-- A change of a frame that spares its line. -/
theorem line_modified (w : World L) (f f' : Frame) {g : FrameRecord → FrameRecord}
    (hg : ∀ r, (g r).line = r.line) : ((w.modifyFrame f g).frame f').line = (w.frame f').line := by
  simp only [World.frame, World.modifyFrame]
  by_cases hi : f'.index = f.index
  · by_cases hlt : f.index < w.frames.size
    · rw [hi, Table.get_modify_self _ _ hlt]
      exact hg _
    · rw [Table.modify_of_size_le _ _ (Nat.le_of_not_lt hlt)]
  · rw [Table.get_modify_ne _ _ hi]

theorem swapBack_aside (f : Frame) (back : Option Frame) : Aside (swapBack f back : Effect L (Option Frame)) where
  sure := swapBack_sure _ _
  exceptions _ := rfl
  wrappers _ := rfl
  lines w f' := line_modified w f f' fun _ => rfl

/-! ### Releases -/

namespace Escorting

theorem kept (hE : Escorting e care frames E) (v : Value) :
    (tracing L e care frames).Kept (E.release v) := hE.release v

theorem releaseAll (hE : Escorting e care frames E) (vs : List Value) :
    (tracing L e care frames).Kept (E.releaseAll vs) := .releaseAll hE.kept vs

theorem owning (hE : Escorting e care frames E) (vs : List Value) {x : Effect L α}
    (hx : (tracing L e care frames).Kept x) : (tracing L e care frames).Kept (E.owning vs x) :=
  hx.onPanic (hE.releaseAll vs)

end Escorting

/-! ### Runs that are cut -/

theorem spares_iff : spares e care frames w v = true ↔
    (care.traceback = true → (v.exception e).traceback = (w.exception e).traceback) ∧
      ∀ f ∈ frames, care.line f = true → (v.frame f).line = (w.frame f).line := by
  simp [spares, ← Bool.not_eq_true, Decidable.imp_iff_not_or]

theorem Exit.eq_of_raisesOnly {exit : Exit L} (h : exit.raisesOnly e = true) :
    exit = .completed (.error e) := by
  rcases exit with ⟨_, _⟩ | e' | _
  · exact absurd h Bool.false_ne_true
  · rw [beq_iff_eq.mp h]
  · exact absurd h Bool.false_ne_true

/-- What is known of a computation holds where it is not cut. -/
theorem Meets.only {x : Effect L α} {Q : Post L α} (h : Meets x w Q)
    (good : World L → α → World L → Bool) :
    Meets (x.only good) w
      ⟨fun a v => Q.ok a v ∧ good w a v = true, fun _ => False, fun _ => True⟩ := by
  have hx := h.holds
  refine ⟨?_⟩
  rcases hw : x w with ⟨a | m | _, v⟩ <;> rw [hw] at hx <;> simp only [Effect.only, hw]
  · split
    · rename_i hgood
      exact ⟨hx, hgood⟩
    · exact trivial
  · exact trivial
  · exact trivial

/-- Where a computation is not cut, it does what it does. -/
theorem Effect.extends_only (x : Effect L α) (good : World L → α → World L → Bool) :
    x.Extends (x.only good) := by
  intro w hw
  simp only [Effect.only] at hw ⊢
  rcases h : x w with ⟨a | m | _, v⟩ <;> simp only [h] at hw ⊢
  · by_cases hgood : good w a v = true
    · rw [if_pos hgood]
    · rw [if_neg hgood] at hw
      exact absurd rfl hw
  · exact absurd rfl hw

/-- What keeps the laws of all engines, and moreover spares an exception, leaves it alone. -/
theorem untouched_of_kept {x : Effect L α} {k : Option CoroutineId} (hw : w.Orderly)
    (honward : (onward L).Kept x) (hheeds : ∀ c, (heeding L c k).Kept x)
    {good : World L → α → World L → Bool} {P : α → Prop}
    (hgood : ∀ a u, good w a u = true → P a ∧ spares e care frames w u = true) :
    Meets (x.only good) w
      ⟨fun a u => P a ∧ u.Orderly ∧ Untouched e care frames w u, fun _ => False, fun _ => True⟩ := by
  refine (((honward w hw).and (.all fun c => hheeds c w hw)).only good).mono ?_ (fun _ h => h) fun _ h => h
  rintro a u ⟨⟨⟨ho, hg⟩, hheeded⟩, hu⟩
  obtain ⟨ha, hspares⟩ := hgood a u hu
  obtain ⟨htraceback, hlines⟩ := spares_iff.mp hspares
  exact ⟨ha, ho, hg.toGrown, htraceback, hlines, fun c => (hheeded c).2.departed⟩

theorem heedful_ofDepth (i : CoroutineId) (n : Nat) : Heedful i (.ofDepth L n) :=
  Engine.watched_nothing (L := L) n ▸ heedful_watched {} i n

/-! ## The escorted engine -/

/-- On the escorted engine, releases leave the exception alone. -/
theorem escorting_escort (care : Care) (last : BodyRun L) (n : Nat) (frames : List Frame) :
    Escorting e care frames (.escort e care last n frames) := by
  cases n with
  | zero =>
    refine ⟨fun v w hw => ?_, fun w => rfl⟩
    show Meets (if v.isNone then pure () else .stop) w _
    split
    · exact .pure ⟨hw, .refl e care frames w⟩
    · exact ⟨trivial⟩
  | succ n =>
    refine ⟨fun v w hw => ?_, fun w => ?_⟩
    · have hE := (heedful_ofDepth (L := L) ⟨0⟩ n).toUpheld
      refine (untouched_of_kept (P := fun _ => True) hw (onward_universal.releaseHandle hE v)
        (fun c => (heedful_ofDepth c n).releaseHandle v) fun _ _ h => ⟨trivial, h⟩).mono
        (fun _ _ h => h.2) (fun _ h => h) fun _ h => h
    · have hself : spares e care frames w w = true := spares_iff.mpr ⟨fun _ => rfl, fun _ _ _ => rfl⟩
      show (if spares e care frames w w then (Outcome.ok (), w) else (.stop, w)) = _
      rw [if_pos hself]

/-- The engine goes on wherever the escorted one does, if it goes on with the last body wherever that goes
on. -/
theorem ofDepth_extends_escort (care : Care) {last : BodyRun L}
    (hlast : ∀ n k a t, (runBody (.ofDepth L n) k n a t).Extends (last n k a t)) (n : Nat)
    (frames : List Frame) : (Engine.ofDepth L n).Extends (.escort e care last n frames) := by
  induction n generalizing frames with
  | zero => exact ⟨fun _ => .refl _, fun _ _ _ => .refl _⟩
  | succ n ih =>
    refine ⟨fun v => Effect.extends_only _ _, fun k a t => ?_⟩
    show (runBody (.ofDepth L n) k n a t).Extends _
    simp only [Engine.escort]
    cases frames.tail with
    | nil => exact hlast n k a t
    | cons f inner =>
      unfold runBody
      cases a.waiting with
      | start => exact fun w hw => absurd rfl hw
      | delivery _ => exact fun w hw => absurd rfl hw
      | delegate d =>
        exact .bind ((Client.passOn _ d t).extends (ih (f :: inner))) fun p => Effect.extends_only _ _

end CoroutineEngine
