import CoroutineEngine.Proofs.Closing
import CoroutineEngine.Proofs.Escort
import Mathlib.Data.List.Forall2

/-!
# Requests that an exception comes out of

A request on a body that waits lets it go on with what is delivered. If the body ends by raising an exception,
its coroutine finishes, the exception notes the frame that it leaves, and comes out of the request.

Results:
* `Nears.resume`: on the way to the body nothing is released; on the way back the exception is left alone,
  except that one frame is noted.
* `request_surfaces`: the same of requests of any kind.
-/

namespace CoroutineEngine

variable {L : Language} {α β : Type}

/-! ## Definitions -/

/-- The entries of a traceback, if there is one, outermost first. -/
def entriesOf (t : Option Traceback) : List TracebackEntry := (t.map (·.entries)).getD []

/-- An entry of a traceback names a frame, and tells its line if that is cared for. -/
structure TracebackEntry.Notes (entry : TracebackEntry) (care : Care) (w : World L) (f : Frame) : Prop where
  name : entry.name = f.code.qualname.content
  line : care.line f = true → entry.line = (w.frame f).line

/-- An instance has noted frames, the outermost one first, in front of the entries of a traceback. -/
def World.HasNoted (w : World L) (e : Exception) (care : Care) (frames : List Frame)
    (t : Option Traceback) : Prop :=
  ∃ es, entriesOf (w.exception e).traceback = es ++ entriesOf t ∧
    List.Forall₂ (fun entry f => entry.Notes care w f) es frames

/-- An instance has left frames; some coroutines are finished. If its traceback is cared for, it has noted the
frames in front of what that was. -/
structure Crossed (w : World L) (e : Exception) (care : Care) (frames : List Frame)
    (t : Option Traceback) (cs : List CoroutineId) (v : World L) : Prop where
  orderly : v.Orderly
  grown : Grown w v
  made : e.index < v.exceptions.size
  noted : care.traceback = true → v.HasNoted e care frames t
  finished : ∀ c ∈ cs, (v.coroutine c).status = .finished

/-- Where something holds of the results, and of where the run is cut, and nothing panics. Whether there is
a result at all depends on `ok`. -/
def Post.crossing (ok : Prop) (S : World L → Prop) (P : α → World L → Prop) : Post L α where
  ok a v := ok ∧ P a v
  panic _ := False
  stop := S

/-- What a request hands to the body, in a world. -/
def Demand.transfer (w : World L) : Demand → Transfer
  | .send v => .ofValue v
  | .throw e => .ofPending ⟨e.cls, some e, (w.exception e).traceback⟩
  | .close => .ofPending (.ofClass .generatorExit)

/-- Between two worlds the coroutines of `cs`, the wrappers and the tracebacks stayed as they were. -/
structure Intact (cs : List CoroutineId) (w v : World L) : Prop where
  grown : Grown w v
  same : ∀ c ∈ cs, v.coroutine c = w.coroutine c
  wrappers : v.wrappers = w.wrappers
  tracebacks : ∀ x, (v.exception x).traceback = (w.exception x).traceback

/-- On the way of a request to the body of `i`, which has this record. -/
structure Nears (cs : List CoroutineId) (w : World L) (i : CoroutineId) (r : CoroutineRecord L) (v : World L) :
    Prop extends At i r v, Intact cs w v

/-- The body of a coroutine waits in a frame, and nothing stands in the way of letting it go on. -/
structure World.Ready (w : World L) (i : CoroutineId) (f : Frame) (a : Activation L) : Prop where
  has : w.Has i
  orderly : w.Orderly
  waits : (w.coroutine i).Waits a
  frame : (w.coroutine i).frame = some f
  pending : (w.coroutine i).pending = none

/-- The body of `i`, which is let go on in a request that started in a world, does something. -/
def Engine.Carries (E : Engine L) (cs : List CoroutineId) (w : World L) (i : CoroutineId) (f : Frame)
    (a : Activation L) (x : Transfer) (Q : Post L (Exit L)) : Prop :=
  ∀ u r, Nears cs w i r u → r.attention = (w.coroutine i).attention.resumed (x.exception.map (·.kind)) →
    Meets (E.run (some ⟨i, (w.coroutine i).code, f⟩) a x) u Q

/-! ## Helpers -/

variable {e : Exception} {care : Care} {frames inner : List Frame} {t : Option Traceback} {cs rest : List CoroutineId}
  {i : CoroutineId} {r : CoroutineRecord L} {w v u : World L} {E : Engine L} {ok : Prop} {S : World L → Prop}

/-! ### What was noted -/

@[simp] theorem entriesOf_push (entry : TracebackEntry) (t : Option Traceback) :
    entriesOf (some (.push entry t)) = entry :: entriesOf t := by
  cases t <;> rfl

theorem World.HasNoted.untouched {frames' : List Frame} (h : w.HasNoted e care frames t)
    (hv : Untouched e care frames' w v) (hcare : care.traceback = true) (hsub : frames ⊆ frames') :
    v.HasNoted e care frames t := by
  obtain ⟨es, hes, hnotes⟩ := h
  refine ⟨es, by rw [hv.traceback hcare, hes], ?_⟩
  clear hes
  induction hnotes with
  | nil => exact .nil
  | @cons entry f es frames hentry _ ih =>
    obtain ⟨hf, hsub⟩ := List.cons_subset.mp hsub
    exact .cons ⟨hentry.name, fun hline => (hentry.line hline).trans (hv.lines f hf hline).symm⟩ (ih hsub)

theorem Crossed.untouched {frames' : List Frame} (h : Crossed w e care frames t cs v)
    (hu : u.Orderly ∧ Untouched e care frames' v u) (hsub : frames ⊆ frames') :
    Crossed w e care frames t cs u where
  orderly := hu.1
  grown := h.grown.trans hu.2.toGrown
  made := Nat.lt_of_lt_of_le h.made hu.2.size
  noted hcare := (h.noted hcare).untouched hu.2 hcare hsub
  finished c hc := hu.2.finished c (h.finished c hc)

theorem Crossed.after (h : Crossed u e care frames t cs v) (hg : Grown w u) : Crossed w e care frames t cs v :=
  { h with grown := hg.trans h.grown }

/-- What leaves the exception alone, where the run may be cut anywhere. -/
theorem Crossed.then_kept {frames' : List Frame} {x : Effect L α} {f : α → Effect L β} {Q : Post L β}
    (h : Crossed w e care frames t cs v) (hx : (tracing L e care frames').Kept x) (hsub : frames ⊆ frames')
    (hcut : ∀ u, Q.stop u) (next : ∀ a u, Crossed w e care frames t cs u → Meets (f a) u Q) :
    Meets (x >>= f) v Q :=
  Meets.then_kept hx h.orderly (fun a u hu => next a u (h.untouched hu hsub)) (fun _ h => h.elim)
    fun u _ => hcut u

/-- A cleanup after a panic, of which there is none. -/
theorem Meets.onPanic_idle {x : Effect L α} {c : Effect L Unit} {Q : Post L α} (hQ : ∀ u, ¬ Q.panic u)
    (h : Meets x v Q) : Meets (x.onPanic c) v Q :=
  .onPanic (h.mono (fun _ _ h => h) (fun u h => (hQ u h).elim) fun _ h => h)

/-! ### On the way to the body -/

theorem Intact.refl (cs : List CoroutineId) (w : World L) : Intact cs w w :=
  ⟨.refl w, fun _ _ => rfl, rfl, fun _ => rfl⟩

theorem Intact.trans (h : Intact cs w v) (h' : Intact cs v u) : Intact cs w u :=
  ⟨h.grown.trans h'.grown, fun c hc => (h'.same c hc).trans (h.same c hc), h'.wrappers.trans h.wrappers,
    fun x => (h'.tracebacks x).trans (h.tracebacks x)⟩

theorem Intact.of_sure {x : Effect L α} (hx : Sure x) (hw : (x w).2.wrappers = w.wrappers)
    (ht : ∀ y, ((x w).2.exception y).traceback = (w.exception y).traceback) : Intact cs w (x w).2 :=
  ⟨hx.1.grown w, fun c _ => by rw [World.coroutine, World.coroutine, hx.1.coroutines], hw, ht⟩

theorem Intact.mono {ds : List CoroutineId} (h : Intact cs w v) (hsub : ds ⊆ cs) : Intact ds w v :=
  { h with same := fun c hc => h.same c (hsub hc) }

theorem Intact.driven (h : Intact cs w v) {y : Value} : v.driven? y = w.driven? y := by
  cases y <;> simp only [World.driven?, World.wrapper, h.wrappers]

theorem Intact.transfer (h : Intact cs w v) (d : Demand) : d.transfer v = d.transfer w := by
  cases d <;> simp only [Demand.transfer, h.tracebacks]

namespace Nears

theorem start (h : At i r w) : Nears cs w i r w := ⟨h, .refl cs w⟩

theorem modified (h : Nears cs w i r v) (hi : i ∉ cs) (g : CoroutineRecord L → CoroutineRecord L) :
    Nears cs w i (g r) (v.modifyCoroutine i g) where
  toAt := Meets.at_modify h.toAt g
  grown := h.grown.trans (.modifyCoroutine v i g)
  same c hc := (modified_other v (fun he : i = c => hi (he ▸ hc)) g).2.trans (h.same c hc)
  wrappers := h.wrappers
  tracebacks := h.tracebacks

variable {f : α → Effect L β} {Q : Post L β}

theorem then_record {f : CoroutineRecord L → Effect L β} (h : Nears cs w i r v) (next : Meets (f r) v Q) :
    Meets (recordOf i >>= f) v Q := .then_record h.toAt next

theorem then_modify {f : Unit → Effect L β} (h : Nears cs w i r v) (hi : i ∉ cs)
    {g : CoroutineRecord L → CoroutineRecord L} (next : ∀ u, Nears cs w i (g r) u → Meets (f ()) u Q) :
    Meets (modifyCoroutine i g >>= f) v Q := ⟨(next _ (h.modified hi g)).holds⟩

/-- A note about the coroutine that depends on the world. -/
theorem then_note {f : Unit → Effect L β} (h : Nears cs w i r v) (hi : i ∉ cs)
    {g : World L → CoroutineRecord L → CoroutineRecord L}
    (next : ∀ u, Nears cs w i (g v r) u → Meets (f ()) u Q) :
    Meets (.modify (fun w => w.modifyCoroutine i (g w)) >>= f) v Q := ⟨(next _ (h.modified hi (g v))).holds⟩

theorem then_update {g : CoroutineRecord L → α × CoroutineRecord L} (h : Nears cs w i r v) (hi : i ∉ cs)
    (next : ∀ u, Nears cs w i (g r).2 u → Meets (f (g r).1) u Q) :
    Meets (updateCoroutine i g >>= f) v Q := by
  have hm := next _ (h.modified hi fun _ => (g r).2)
  rw [← h.record] at hm
  exact ⟨hm.holds⟩

theorem then_ambient {g : Ambient L → α × Ambient L} (h : Nears cs w i r v)
    (hb : ∀ a, (g a).2.borrowed = a.borrowed) (hh : ∀ a, (g a).2.hook = a.hook)
    (next : ∀ a u, Nears cs w i r u → Meets (f a) u Q) : Meets (withAmbient g >>= f) v Q := by
  refine .then_eq (withAmbient_ok h.orderly) (next _ _ ⟨⟨h.has, ⟨?_, ?_⟩, h.record⟩,
    ⟨?_, h.same, h.wrappers, h.tracebacks⟩⟩)
  · exact (hb _).trans h.orderly.borrowed
  · exact fun k hk => h.orderly.hook k ((hh _).symm.trans hk)
  · exact h.grown.trans (.of_fields rfl rfl rfl rfl rfl)

theorem then_aside {x : Effect L α} (h : Nears cs w i r v) (hx : Aside x)
    (next : ∀ a u, Nears cs w i r u → Meets (f a) u Q) : Meets (x >>= f) v Q := by
  obtain ⟨a, ha⟩ := hx.apply v
  have hc := hx.sure.1.coroutines v
  refine .then_eq ha (next a _ ⟨⟨?_, hx.sure.orderly h.orderly, ?_⟩, h.toIntact.trans (.of_sure hx.sure
    (hx.wrappers v) fun y => ?_)⟩)
  · rw [World.Has, hc]
    exact h.has
  · rw [World.coroutine, hc]
    exact h.record
  · rw [World.exception, hx.exceptions v]
    rfl

end Nears

/-! ### On the way back -/

theorem tracing_modify {g : CoroutineRecord L → CoroutineRecord L}
    (hg : ∀ r, r.status = .finished → (g r).status = .finished) :
    (tracing L e care frames).Kept (modifyCoroutine i g) := tracing_note fun _ => hg

namespace Escorting

theorem discardStray (hE : Escorting e care frames E) : (tracing L e care frames).Kept (discardStray E) := by
  refine .bind (tracing_ambient (fun _ => rfl) fun _ => rfl) fun stray => ?_
  cases stray with
  | none => exact .pure _
  | some stray => exact .bind (tracing_aside (log_aside _ _ _)) fun _ => hE.releaseAll _

theorem leaveSwitch (hE : Escorting e care frames E) (i : CoroutineId) (f : Frame) (driver : DriverState) :
    (tracing L e care frames).Kept (leaveSwitch E i f driver false) := by
  refine .bind ?_ fun _ => .pure _
  refine .bind (tracing_modify fun _ h => h) fun _ => .bind (hE.owning _ hE.discardStray) fun _ =>
    .bind (tracing_ambient (fun _ => rfl) fun _ => rfl) fun _ => .bind (hE.owning _ (hE.releaseAll _)) fun _ =>
      .bind (tracing_ambient (fun _ => rfl) fun _ => rfl) fun _ => .bind (tracing_update fun _ h => h) fun _ =>
        .bind (hE.releaseAll _) fun _ => .bind (tracing_aside (swapBack_aside _ _)) fun _ =>
          .bind (tracing_ambient (fun _ => rfl) fun _ => rfl) fun _ => .pure _

end Escorting

namespace Crossed

/-- A coroutine that finishes is finished. -/
theorem finish (hE : Escorting e care frames E) (h : Crossed w e care inner t cs v) (hsub : inner ⊆ frames)
    (hi : v.Has i) :
    Meets (finish E i) v ⟨fun _ u => Crossed w e care inner t (i :: cs) u, fun _ => False, fun _ => True⟩ := by
  refine .then_eq (a := (v.coroutine i).inputs.releaseParameters.1)
    (v := v.modifyCoroutine i fun _ => (v.coroutine i).asFinished) rfl ?_
  have hfinished : Crossed w e care inner t (i :: cs) (v.modifyCoroutine i fun _ => (v.coroutine i).asFinished) := by
    have huntouched := h.untouched (u := v.modifyCoroutine i fun _ => (v.coroutine i).asFinished)
      ⟨⟨h.orderly.borrowed, h.orderly.hook⟩, .modified fun _ => rfl⟩ hsub
    refine { huntouched with finished := fun c hc => ?_ }
    rcases List.mem_cons.mp hc with rfl | hc
    · rw [(modified_of_has hi _).2]
      rfl
    · exact huntouched.finished c hc
  refine hfinished.then_kept (hE.releaseAll _) hsub (fun _ => trivial) fun _ u₁ h₁ => ?_
  refine h₁.then_kept (tracing_update fun _ h => h) hsub (fun _ => trivial) fun _ u₂ h₂ => ?_
  refine h₂.then_kept (hE.releaseAll _) hsub (fun _ => trivial) fun _ u₃ h₃ => ?_
  refine h₃.then_kept (tracing_update fun _ h => h) hsub (fun _ => trivial) fun _ u₄ h₄ => ?_
  refine h₄.then_kept (hE.releaseAll _) hsub (fun _ => trivial) fun _ u₅ h₅ => ?_
  exact ((tracing_aside (logCoroutine_aside _ _ _ _)) u₅ h₅.orderly).mono
    (fun _ _ hu => h₅.untouched hu hsub) (fun _ h => h) fun _ h => h

/-- An exception that leaves a body notes the frame. -/
theorem surface (h : Crossed w e care inner t cs v) (hplain : e.cls.isSubclassOf .stopIteration = false) (code : Code)
    (f : Frame) :
    Meets (surface code f (.error e)) v
      ⟨fun reply u => reply = .error e ∧ Crossed w e care (f :: inner) t cs u, fun _ => False, fun _ => True⟩ := by
  refine .then_eq (v := (pushTraceback e f v).2) rfl ?_
  simp only [hplain, Bool.false_and, Bool.false_eq_true, if_false]
  have hpushed : (pushTraceback e f v).2.exception e = { v.exception e with
      traceback := some (.push ⟨v.serial, f.code.qualname.content, (v.frame f).line⟩
        (v.exception e).traceback) } := Table.get_modify_self _ _ h.made
  have hgrown := (pushTraceback_still e f).mild.grown v
  refine .pure ⟨rfl, ⟨h.orderly.borrowed, h.orderly.hook⟩, h.grown.trans hgrown,
    Nat.lt_of_lt_of_le h.made hgrown.size, fun hcare => ?_, h.finished⟩
  obtain ⟨es, hes, hnotes⟩ := h.noted hcare
  refine ⟨⟨v.serial, f.code.qualname.content, (v.frame f).line⟩ :: es, ?_, .cons ⟨rfl, fun _ => rfl⟩ ?_⟩
  · rw [hpushed, entriesOf_push, hes]
    rfl
  · exact hnotes.imp fun _ _ h => ⟨h.name, h.line⟩

/-- Whatever is still primed when the reply is there is released. -/
theorem unprime (hE : Escorting e care frames E) (h : Crossed w e care inner t cs v) (hsub : inner ⊆ frames)
    (i : CoroutineId) (reply : Reply) :
    Meets (unprime E i reply) v
      ⟨fun reply' u => reply' = reply ∧ Crossed w e care inner t cs u, fun _ => False, fun _ => True⟩ := by
  refine h.then_kept (tracing_update fun _ h => h) hsub (fun _ => trivial) fun _ u₁ h₁ => ?_
  exact h₁.then_kept (hE.owning _ (hE.releaseAll _)) hsub (fun _ => trivial) fun _ u₂ h₂ => .pure ⟨rfl, h₂⟩

end Crossed

/-! ### The switch -/

namespace Nears

theorem enterSwitch (h : Nears cs w i r v) (hi : i ∉ cs) (f : Frame) :
    Meets (enterSwitch i f) v
      ⟨fun _ u => Nears cs w i r.entered u, fun _ => False, fun _ => False⟩ := by
  refine h.then_ambient (fun _ => rfl) (fun _ => rfl) fun _ v₁ h₁ => ?_
  refine h₁.then_aside (swapBack_aside _ _) fun _ v₂ h₂ => ?_
  refine h₂.then_update hi fun v₃ h₃ => ?_
  refine h₃.then_ambient (fun _ => rfl) (fun _ => rfl) fun _ v₄ h₄ => ?_
  refine h₄.then_ambient (fun _ => rfl) (fun _ => rfl) fun _ v₅ h₅ => ?_
  refine h₅.then_modify hi fun v₆ h₆ => ?_
  exact h₆.then_aside (logCoroutine_aside _ _ _ _) fun _ v₇ h₇ => .pure h₇

end Nears

/-! ### Requests -/

section

variable {f : Frame} {a : Activation L} {x : Transfer} (hE : Escorting e care (f :: inner) E)
  (hready : w.Ready i f a) (hi : i ∉ cs) (hplain : e.cls.isSubclassOf .stopIteration = false)
  (hcut : ok → ∀ u, S u)

include hE hi hcut

/-- A switch into a body that ends by raising the exception. -/
theorem Nears.switchInto (h : Nears cs w i r v) {fiber : Fiber L} (hl : fiber.lossIn = none)
    (hstack : fiber.stack = .suspended a) (hr : r.attention = (w.coroutine i).attention)
    (run : E.Carries cs w i f a x (.crossing ok S fun exit u =>
      exit = .completed (.error e) ∧ Crossed w e care inner t rest u)) :
    Meets (switchInto E i (w.coroutine i).code f fiber x) v (.crossing ok S fun p u =>
      p.1 = .ok (.completed (.error e)) ∧ Crossed w e care inner t rest u) := by
  have hsub : inner ⊆ f :: inner := List.subset_cons_self f inner
  refine .bind ((h.enterSwitch hi f).mono ?_ (fun _ h => h.elim) fun _ h => h.elim)
  intro driver v₁ h₁
  refine .bind (.onPanic_idle (fun _ h => h) ?_)
  refine .then_eq (a := fiber) (v := v₁) (by simp [approachLoss, hl]) ?_
  unfold enterFiber continueBody
  simp only [hstack]
  refine .bind (.bind (h₁.then_note hi fun v₂ h₂ => .bind ?_))
  refine (run v₂ _ h₂ (by rw [← hr]; rfl)).mono ?_ (fun _ h => h) fun _ h => h
  -- on the way back
  rintro _ v₃ ⟨hok, rfl, h₃⟩
  refine h₃.then_kept (tracing_note fun _ _ h => h) hsub (hcut hok) fun _ v₄ h₄ => ?_
  refine .pure (.pure (.pure (.bind (.onPanic_idle (fun _ h => h) ?_))))
  refine ((hE.leaveSwitch i f driver) v₄ h₄.orderly).mono ?_ (fun _ h => h) fun u _ => hcut hok u
  exact fun _ v₅ h₅ => .pure ⟨hok, rfl, h₄.untouched h₅ hsub⟩

include hready hplain

/-- The resumption of a coroutine whose body ends by raising the exception. -/
theorem Nears.resume {history : History} {left : Option PendingException}
    (h : Nears cs w i { w.coroutine i with history, pending := left } v)
    (hr : { w.coroutine i with history }.attention = (w.coroutine i).attention)
    (run : E.Carries cs w i f a x (.crossing ok S fun exit u =>
      exit = .completed (.error e) ∧ Crossed w e care inner t rest u)) :
    Meets (resume E i x) v (.crossing ok S fun reply u =>
      reply = .error e ∧ Crossed w e care (f :: inner) t (i :: rest) u) := by
  obtain ⟨fiber, hfiber, hl, hstack⟩ := hready.waits.fiber
  have hsub : inner ⊆ f :: inner := List.subset_cons_self f inner
  refine h.then_record ?_
  simp only [hready.frame, hfiber]
  refine h.then_modify hi fun v₁ h₁ => .bind ?_
  refine (h₁.switchInto hE hi hcut hl hstack hr run).mono ?_ (fun _ h => h) fun _ h => h
  rintro ⟨_, after⟩ v₂ ⟨hok, rfl, h₂⟩
  refine h₂.then_kept (tracing_modify fun _ h => h) hsub (hcut hok) fun _ v₃ h₃ => ?_
  refine .bind (.onPanic_idle (fun _ h => h) ?_)
  refine (h₃.finish hE hsub (h₃.grown.has hready.has)).mono ?_ (fun _ h => h) fun u _ => hcut hok u
  intro _ v₄ h₄
  exact (h₄.surface hplain _ _).mono (fun _ _ h => ⟨hok, h⟩) (fun _ h => h) fun u _ => hcut hok u

/-- A send to the coroutine, with a primed exception or a value to deliver. -/
theorem Nears.send {left : Option PendingException}
    (h : Nears cs w i { w.coroutine i with pending := left } v) {y : Value} (hy : left ≠ none → y = .none)
    (run : E.Carries cs w i f a (CoroutineRecord.delivery { w.coroutine i with pending := left } y)
      (.crossing ok S fun exit u => exit = .completed (.error e) ∧ Crossed w e care inner t rest u)) :
    Meets (send E i y) v (.crossing ok S fun reply u =>
      reply = .error e ∧ Crossed w e care (f :: inner) t (i :: rest) u) := by
  have hwait := hready.waits
  have hu : ¬ (w.coroutine i).status = .unused := by
    rw [hwait.status]
    decide
  have hfirst : ¬ ((w.coroutine i).status = .unused ∧ (!y.isNone) = true) := fun h => hu h.1
  have hrun : ¬ (w.coroutine i).running = true := by simp [hwait.running]
  refine h.then_record ?_
  simp only [if_neg hfirst, if_neg hwait.not_finished, if_neg hrun, if_neg hu]
  refine h.then_modify hi fun v₁ h₁ => .then_eq rfl ?_
  refine h₁.then_update hi fun v₂ h₂ => ?_
  replace h₂ : Nears cs w i
      { w.coroutine i with history := (w.coroutine i).noteVisit.history, pending := none } v₂ := h₂
  cases left with
  | none => exact h₂.resume hE hready hi hplain hcut rfl run
  | some p =>
    rw [hy (by simp)] at run ⊢
    exact .then_eq (Effect.onPanic_ok (hE.empty v₂)) (h₂.resume hE hready hi hplain hcut rfl run)

theorem throwPending_surfaces {p : PendingException}
    (run : E.Carries cs w i f a (.ofPending p) (.crossing ok S fun exit u =>
      exit = .completed (.error e) ∧ Crossed w e care inner t rest u)) :
    Meets (throwPending E i p) w (.crossing ok S fun reply u =>
      reply = .error e ∧ Crossed w e care (f :: inner) t (i :: rest) u) := by
  have hrun : ¬ (w.coroutine i).running = true := by simp [hready.waits.running]
  have hstart : Nears cs w i (w.coroutine i) w := .start ⟨hready.has, hready.orderly, rfl⟩
  refine hstart.then_record ?_
  simp only [if_neg hrun, if_neg hready.waits.not_finished]
  refine hstart.then_update hi fun v₁ h₁ => ?_
  rw [show ((w.coroutine i).pending, { w.coroutine i with pending := some p }).1 = none from hready.pending]
  refine .then_eq (a := ()) (v := v₁) rfl (.bind ?_)
  refine (h₁.send hE hready hi hplain hcut (fun _ => rfl) run).mono ?_ (fun _ h => h) fun _ h => h
  rintro _ u ⟨hok, rfl, hu⟩
  exact (hu.unprime hE (List.Subset.refl _) i (.error e)).mono (fun _ _ h => ⟨hok, h⟩) (fun _ h => h)
    fun u _ => hcut hok u

/-- A request on a coroutine whose body ends by raising an ordinary exception: the exception comes out, and
has noted the frame of the body. -/
theorem request_surfaces (hordinary : e.cls.isSubclassOf .generatorExit = false) (d : Demand)
    (run : E.Carries cs w i f a (d.transfer w) (.crossing ok S fun exit u =>
      exit = .completed (.error e) ∧ Crossed w e care inner t rest u)) :
    Meets (d.request E i) w (.crossing ok S fun reply u =>
      reply = .error e ∧ Crossed w e care (f :: inner) t (i :: rest) u) := by
  cases d with
  | send y =>
    have hrecord : { w.coroutine i with pending := none } = w.coroutine i := by rw [← hready.pending]
    have hstart : Nears cs w i { w.coroutine i with pending := none } w := by
      rw [hrecord]
      exact .start ⟨hready.has, hready.orderly, rfl⟩
    exact hstart.send hE hready hi hplain hcut (fun h => absurd rfl h) run
  | throw e' => exact .then_gets (throwPending_surfaces hE hready hi hplain hcut run)
  | close =>
    refine .then_gets ?_
    have hrun : ¬ (w.coroutine i).status ≠ .running := fun h => h hready.waits.status
    simp only [if_neg hrun]
    refine .bind ((throwPending_surfaces hE hready hi hplain hcut run).mono ?_ (fun _ h => h) fun _ h => h)
    rintro _ u ⟨hok, rfl, hu⟩
    simp only [hordinary, hplain, Bool.or_self, Bool.false_eq_true, if_false]
    exact .pure ⟨hok, rfl, hu⟩

end

end CoroutineEngine
