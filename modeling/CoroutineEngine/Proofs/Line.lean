import CoroutineEngine.Proofs.Heeding
import CoroutineEngine.Proofs.Keeping

/-!
# A line of coroutines

A driver drives the first coroutine of a line, and each coroutine of the line the next one, while it
delegates to it. Under a watch that lets nobody else make requests on the line, whatever is released on
the way of a request leaves the coroutines of the line as they are.

Results:
* `engaged_of_drawn`: the watch looks at the coroutines from the first one on, as long as each is tied to
  the next.
* `Guarded.hosting`, `Guarded.spares`: under the watch, releases leave the line alone, and a body leaves
  alone what comes before it.
* `Underway.then_release` and the like: the record of a coroutine on the way of a request.
-/

namespace CoroutineEngine

variable {L : Language} {α β : Type}

/-! ## Definitions -/

/-- A coroutine that has a claim on the next one of its line: it was not started yet, or it delegates. -/
def CoroutineRecord.IsTied (r : CoroutineRecord L) : Prop :=
  r.status = .unused ∨ r.status = .running ∧ r.awaiting ≠ none

/-- The first coroutines of a line, each of them but the last tied to the next. -/
structure World.Drawn (w : World L) (cs : List CoroutineId) : Prop where
  orderly : w.Orderly
  has : ∀ c ∈ cs, w.Has c
  tied : ∀ c ∈ cs.dropLast, (w.coroutine c).IsTied

/-- A release of a handle, or a run of the body of a coroutine `i`, was cut, and left this world. -/
def Engine.IsCut (E : Engine L) (i : CoroutineId) (u : World L) : Prop :=
  (∃ v w, E.release v w = (.stop, u)) ∨
    ∃ k a t w, k.coroutine = i ∧ E.run (some k) a t w = (.stop, u)

/-- What a request ends in: with a result of which something holds. It panics only if the release of a
handle does, and is cut only in a world `S` tells of, or by two panics. -/
def Post.served (W : Watch) (S : World L → Prop) (P : α → World L → Prop) : Post L α :=
  ⟨P, fun _ => W.strict = false, fun u => W.strict = false ∨ S u⟩

/-- What stays of the record of a coroutine that nobody is concerned with. -/
structure CoroutineRecord.Idles (W : Watch) (own : Prop) (r r' : CoroutineRecord L) : Prop
    extends r.Rests own r' where
  visits : r'.history.visits = r.history.visits
  counted : W.exclusive = true → r'.handles = r.handles

namespace CoroutineRecord

variable {W : Watch} {own : Prop} {r r' r'' : CoroutineRecord L}

theorem Idles.refl (W : Watch) (own : Prop) (r : CoroutineRecord L) : r.Idles W own r :=
  ⟨.refl own r, rfl, fun _ => rfl⟩

theorem Idles.trans (h : r.Idles W own r') (h' : r'.Idles W own r'') : r.Idles W own r'' :=
  ⟨h.toRests.trans h'.toRests, h'.visits.trans h.visits,
    fun hw => (h'.counted hw).trans (h.counted hw)⟩

/-- Other bodies note nothing about the coroutine. -/
theorem Idles.other {own' : Prop} (h : r.Idles W own r') (ho : ¬ own) : r.Idles W own' r' :=
  { h with awaiting := fun _ => h.awaiting ho, settled := fun _ => h.settled ho }

end CoroutineRecord

/-- The first coroutines of a line rest, and so do those that are finished. -/
structure Calm (W : Watch) (cs : List CoroutineId) (w v : World L) : Prop where
  drawn : v.Drawn cs
  grown : Grown w v
  idles : ∀ c ∈ cs, (w.coroutine c).Idles W False (v.coroutine c)
  gone : ∀ c, (w.coroutine c).status = .finished → (w.coroutine c).Idles {} False (v.coroutine c)

theorem Calm.trans {W : Watch} {cs : List CoroutineId} {w v u : World L} (h : Calm W cs w v)
    (h' : Calm W cs v u) : Calm W cs w u where
  drawn := h'.drawn
  grown := h.grown.trans h'.grown
  idles c hc := (h.idles c hc).trans (h'.idles c hc)
  gone c hc := (h.gone c hc).trans (h'.gone c ((h.gone c hc).status.trans hc))

/-- The law of a line that rests while requests are served. -/
def calm (W : Watch) (S : World L → Prop) (cs : List CoroutineId) : Law L where
  start w := w.Drawn cs
  step := Calm W cs
  panic w v := W.strict = false ∧ Calm W cs w v
  cut _ v := W.strict = false ∨ S v
  refl h := ⟨h, .refl _, fun _ _ => .refl _ _ _, fun _ _ => .refl _ _ _⟩
  next h := h.drawn
  trans := .trans
  step_panic h h' := ⟨h'.1, h.trans h'.2⟩
  step_cut _ h := h
  panic_next h := h.2.drawn
  panic_step h h' := ⟨h.1, h.2.trans h'⟩
  panic_cut _ h := h
  cut_of_panic h := .inl h.1

/-- An engine on which a line rests while requests are served. -/
structure Hosting (W : Watch) (S : World L → Prop) (E : Engine L) : Prop where
  release : ∀ {cs}, cs <+: W.line → ∀ v, (calm W S cs).Kept (E.release v)
  empty : ∀ w, E.release .none w = (.ok (), w)

/-- An engine whose releases and runs of bodies disturb nobody whom the watch looks at. -/
structure Guarded (W : Watch) (E : Engine L) : Prop where
  heedful : ∀ c, Heedful c E
  release : ∀ v w, Meets (E.release v) w
    ⟨fun _ u => W.disturbed (w.engaged W.line) w u = false,
      fun u => W.disturbed (w.engaged W.line) w u = false ∧ W.strict = false, fun _ => True⟩
  run : ∀ k : Context, k.coroutine ∈ W.line → ∀ a t w, Meets (E.run (some k) a t) w
    ⟨fun _ u => W.disturbed (upTo (some k) (w.engaged W.line)) w u = false, fun _ => False,
      fun _ => True⟩
  empty : ∀ w, E.release .none w = (.ok (), w)

/-- On the way of a request on a coroutine `i` that started in `w`: `i` has this record, the coroutines of
`cs` are drawn, and those besides `i` rest, as do those that are finished. Until the body has gone on, there
are others, `ds`, that are as they were. -/
structure Underway (W : Watch) (cs ds : List CoroutineId) (i : CoroutineId) (w : World L)
    (r : CoroutineRecord L) (v : World L) : Prop where
  drawn : v.Drawn cs
  mem : i ∈ cs
  record : v.coroutine i = r
  grown : Grown w v
  others : ∀ c ∈ cs, c ≠ i → (w.coroutine c).Idles W False (v.coroutine c)
  same : ∀ c ∈ ds, c ≠ i → v.coroutine c = w.coroutine c
  gone : ∀ c, c ≠ i → (w.coroutine c).status = .finished →
    (w.coroutine c).Idles {} False (v.coroutine c)

/-! ## Helpers -/

/-! ### What the watch looks at -/

theorem CoroutineRecord.Rests.tied {r r' : CoroutineRecord L} {own : Prop} (h : r.Rests own r')
    (ho : ¬ own) (ht : r.IsTied) : r'.IsTied := by
  rcases ht with hu | ⟨hr, ha⟩
  · exact .inl (h.status.trans hu)
  · have hfin : r.status ≠ .finished := by
      rw [hr]
      decide
    exact .inr ⟨h.status.trans hr, by rwa [h.awaiting ho hfin]⟩

theorem World.Drawn.of_rests {w v : World L} {cs : List CoroutineId} (h : w.Drawn cs)
    (hv : v.Orderly) (hg : Grown w v)
    (hr : ∀ c ∈ cs.dropLast, (w.coroutine c).Rests False (v.coroutine c)) : v.Drawn cs where
  orderly := hv
  has c hc := Nat.lt_of_lt_of_le (h.has c hc) hg.count
  tied c hc := (hr c hc).tied id (h.tied c hc)

/-- The line of a single coroutine is drawn in every world that has it. -/
theorem World.drawn_single {w : World L} {i : CoroutineId} (ho : w.Orderly) (hi : w.Has i) :
    w.Drawn [i] where
  orderly := ho
  has c hc := by
    rw [List.mem_singleton.mp hc]
    exact hi
  tied c hc := absurd hc List.not_mem_nil

/-- Whoever is drawn is looked at. -/
theorem engaged_of_drawn {w : World L} {cs line : List CoroutineId} (hp : cs <+: line)
    (ht : ∀ c ∈ cs.dropLast, (w.coroutine c).IsTied) : cs <+: w.engaged line := by
  induction cs generalizing line with
  | nil => exact List.nil_prefix
  | cons c cs ih =>
    obtain ⟨rest, rfl⟩ := hp
    cases cs with
    | nil => exact ⟨_, rfl⟩
    | cons c' cs =>
      have htied : (w.coroutine c).IsTied := ht c (by simp)
      have hnext : ((w.coroutine c).status == .unused || (w.coroutine c).awaiting.isSome) = true := by
        rcases htied with hu | ⟨-, ha⟩
        · simp [hu]
        · simp [Option.isSome_iff_ne_none.mpr ha]
      have hsub : c' :: cs <+: c' :: cs ++ rest := ⟨rest, rfl⟩
      obtain ⟨more, hmore⟩ := ih hsub fun d hd => ht d (by simp [List.dropLast, hd])
      refine ⟨more, ?_⟩
      show c :: (c' :: cs ++ more) = w.engaged (c :: (c' :: cs ++ rest))
      rw [hmore, World.engaged, if_pos hnext]

/-- A body is looked at up to its own coroutine. -/
theorem upTo_of_prefix {k : Context} {cs es : List CoroutineId} (hp : cs <+: es)
    (hk : k.coroutine ∉ cs.dropLast) {c : CoroutineId} (hc : c ∈ cs) : c ∈ upTo (some k) es := by
  induction cs generalizing es with
  | nil => exact absurd hc List.not_mem_nil
  | cons d cs ih =>
    obtain ⟨rest, rfl⟩ := hp
    rcases List.mem_cons.mp hc with rfl | hc
    · exact List.mem_cons_self
    · cases cs with
      | nil => exact absurd hc List.not_mem_nil
      | cons d' cs =>
        have hne : isBodyOf (some d) (some k) = false := by
          have hd : k.coroutine ≠ d := fun h => hk (by simp [h])
          simpa [isBodyOf] using Ne.symm hd
        have hsub : d' :: cs <+: d' :: cs ++ rest := ⟨rest, rfl⟩
        have htail := ih hsub (fun h => hk (by simp [List.dropLast, h])) hc
        simp only [List.cons_append, upTo, hne, Bool.false_eq_true, if_false]
        exact List.mem_cons_of_mem _ htail

theorem visits_of_undisturbed {W : Watch} {cs : List CoroutineId} {w v : World L}
    (h : W.disturbed cs w v = false) {c : CoroutineId} (hc : c ∈ cs) :
    (v.coroutine c).history.visits = (w.coroutine c).history.visits ∧
      (W.exclusive = true → (v.coroutine c).handles = (w.coroutine c).handles) := by
  obtain ⟨hv, hh⟩ := Bool.or_eq_false_iff.mp h
  refine ⟨by simpa using (List.any_eq_false.mp hv) c hc, fun he => ?_⟩
  rw [he, Bool.true_and] at hh
  simpa using (List.any_eq_false.mp hh) c hc

/-- A coroutine that is finished rests, whatever other bodies do. -/
theorem Heeded.gone {c : CoroutineId} {k : Option CoroutineId} {w v : World L} (h : Heeded c k w v)
    (hk : k ≠ some c) (hs : (w.coroutine c).status = .finished) :
    (w.coroutine c).Idles {} False (v.coroutine c) := by
  have hi : w.Has c := Classical.byContradiction fun hi => by
    rw [World.coroutine_eq_default (Nat.le_of_not_lt hi)] at hs
    exact absurd hs (show Status.unused ≠ .finished by decide)
  have hh := (h hi).2
  have hv := hh.finished hs
  have idles : (w.coroutine c).Idles {} (k = some c) (v.coroutine c) :=
    ⟨hh.rests hv, hv, fun he => absurd he (by decide)⟩
  exact idles.other hk

/-! ### Engines under a watch -/

/-- Several things that hold of the same ending. -/
theorem Meets.all {ι : Type} {x : Effect L α} {w : World L} {Q : ι → Post L α}
    (h : ∀ j, Meets x w (Q j)) :
    Meets x w ⟨fun a v => ∀ j, (Q j).ok a v, fun v => ∀ j, (Q j).panic v,
      fun v => ∀ j, (Q j).stop v⟩ := by
  have hx (j : ι) := (h j).holds
  refine ⟨?_⟩
  rcases hw : x w with ⟨_ | _ | _, v⟩ <;> simp only [hw] at hx <;> exact hx

/-- What a computation does that serves the body of `k` and disturbs none of `cs`. -/
structure Spared (W : Watch) (k : Option CoroutineId) (cs : List CoroutineId) (w u : World L) : Prop where
  orderly : u.Orderly
  grown : Grown w u
  idles : ∀ c ∈ cs, (w.coroutine c).Idles W (k = some c) (u.coroutine c)
  gone : ∀ c, k ≠ some c → (w.coroutine c).status = .finished →
    (w.coroutine c).Idles {} False (u.coroutine c)

/-- What an engine does to a line if it does not disturb it. -/
theorem undisturbed_meets {W : Watch} {k : Option CoroutineId} {x : Effect L α} {w : World L}
    {cs es : List CoroutineId} (hw : w.Drawn cs) (hes : ∀ c ∈ cs, c ∈ es)
    (honward : (onward L).Kept x) (hheeds : ∀ c, (heeding L c k).Kept x)
    (hcalm : Meets x w ⟨fun _ u => W.disturbed es w u = false, fun u => W.disturbed es w u = false,
      fun _ => True⟩) :
    Meets x w ⟨fun _ u => Spared W k cs w u, fun u => Spared W k cs w u, fun _ => True⟩ := by
  have hall := Meets.all fun c => hheeds c w hw.orderly
  have step {u : World L} (ho : u.Orderly ∧ Onward w u)
      (hh : ∀ c, u.Orderly ∧ Heeded c k w u) (hv : W.disturbed es w u = false) : Spared W k cs w u := by
    refine ⟨ho.1, ho.2.toGrown, fun c hc => ?_, fun c => (hh c).2.gone⟩
    have hsame := visits_of_undisturbed hv (hes c hc)
    exact ⟨((hh c).2 (hw.has c hc)).2.rests hsame.1, hsame.1, hsame.2⟩
  exact (((honward w hw.orderly).and hall).and hcalm).mono
    (fun _ _ h => step h.1.1 h.1.2 h.2) (fun _ h => step h.1.1 h.1.2 h.2) fun _ _ => trivial

theorem Watch.undisturbed (W : Watch) (cs : List CoroutineId) (w : World L) :
    W.disturbed cs w w = false := by
  simp [Watch.disturbed, visited, recounted]

theorem under_release_undisturbed (W : Watch) (E : Engine L) (v : Value) (w : World L) :
    Meets ((E.under W).release v) w
      ⟨fun _ u => W.disturbed (w.engaged W.line) w u = false,
        fun u => W.disturbed (w.engaged W.line) w u = false ∧ W.strict = false, fun _ => True⟩ :=
  .under_release (.of_all (fun _ _ => ⟨trivial, id⟩) (fun _ => ⟨trivial, fun h h' => ⟨h, h'⟩⟩)
    fun _ => trivial)

theorem under_run_undisturbed (W : Watch) (E : Engine L) (k : Context) (hk : k.coroutine ∈ W.line)
    (a : Activation L) (t : Transfer) (w : World L) :
    Meets ((E.under W).run (some k) a t) w
      ⟨fun _ u => W.disturbed (upTo (some k) (w.engaged W.line)) w u = false, fun _ => False,
        fun _ => True⟩ := by
  have hanswers : W.answersFor (some k) = true :=
    List.any_eq_true.mpr ⟨k.coroutine, hk, by simp [isBodyOf]⟩
  refine .under_run (.of_all (fun _ u => ⟨trivial, fun h => ?_⟩)
    (fun _ => ⟨trivial, fun _ h => absurd (hanswers.symm.trans h) (by decide)⟩) fun _ => trivial)
  simp only [Watch.objects, Bool.or_eq_false_iff] at h
  exact h.2

/-- At every depth of nesting, nobody is disturbed whom the watch looks at. -/
theorem guarded_watched (W : Watch) (n : Nat) : Guarded W (.watched L W n) where
  heedful c := heedful_watched W c n
  empty := (faithful_watched W ⟨0⟩ n).empty
  release v w := by
    cases n with
    | zero =>
      show Meets (if v.isNone then pure () else .stop) w _
      split
      · exact .pure (W.undisturbed _ w)
      · exact ⟨trivial⟩
    | succ n => exact under_release_undisturbed W _ v w
  run k hk a t w := by
    cases n with
    | zero => exact ⟨trivial⟩
    | succ n => exact under_run_undisturbed W _ k hk a t w

/-- A postcondition of a computation, with the equation of its cut. -/
theorem Meets.with_cut {x : Effect L α} {w : World L} {Q : Post L α} {S : World L → Prop}
    (h : Meets x w Q) (hS : ∀ u, x w = (.stop, u) → S u) :
    Meets x w ⟨Q.ok, Q.panic, fun u => Q.stop u ∧ S u⟩ := by
  have hx := h.holds
  refine ⟨?_⟩
  rcases hw : x w with ⟨_ | _ | _, u⟩ <;> rw [hw] at hx
  · exact hx
  · exact hx
  · exact ⟨hx, hS u hw⟩

/-- Under the watch, a line rests. -/
theorem Guarded.hosting {W : Watch} {E : Engine L} (hE : Guarded W E) {S : World L → Prop}
    (hS : ∀ v w u, E.release v w = (.stop, u) → S u) : Hosting W S E where
  release {cs} hp v w hw := by
    have hes : ∀ c ∈ cs, c ∈ w.engaged W.line := fun c hc =>
      (engaged_of_drawn hp hw.tied).subset hc
    have hvisits := hE.release v w
    have hidles := undisturbed_meets hw hes ((hE.heedful ⟨0⟩).release v) (fun c => (hE.heedful c).rests v)
      (hvisits.mono (fun _ _ h => h) (fun _ h => h.1) fun _ h => h)
    have calm {u : World L} (h : Spared W none cs w u) : Calm W cs w u := by
      have none_ne (c : CoroutineId) : ¬ (none = some c) := fun h => Option.some_ne_none _ h.symm
      have hr (c) (hc : c ∈ cs) : (w.coroutine c).Idles W False (u.coroutine c) :=
        (h.idles c hc).other (none_ne c)
      exact ⟨hw.of_rests h.orderly h.grown fun c hc => (hr c (List.dropLast_subset _ hc)).toRests,
        h.grown, hr, fun c => h.gone c (none_ne c)⟩
    refine ((hidles.and hvisits).with_cut (hS v w)).mono ?_ ?_ ?_
    · exact fun _ u hu => calm hu.1
    · exact fun u hu => ⟨hu.2.2, calm hu.1⟩
    · exact fun u hu => .inr hu.2
  empty := hE.empty

/-- Under the watch, a body leaves alone the coroutines up to its own, except that it notes what it
awaits. -/
theorem Guarded.spares {W : Watch} {E : Engine L} (hE : Guarded W E) {cs : List CoroutineId}
    (hp : cs <+: W.line) {w : World L}
    (hw : w.Drawn cs) {k : Context} (hi : k.coroutine ∈ cs) (hlast : k.coroutine ∉ cs.dropLast)
    (a : Activation L) (t : Transfer) :
    Meets (E.run (some k) a t) w
      ⟨fun _ u => Spared W (some k.coroutine) cs w u, fun _ => False,
        fun u => E.run (some k) a t w = (.stop, u)⟩ := by
  have hpre := engaged_of_drawn hp hw.tied
  have hunvisited := hE.run k (hp.subset hi) a t w
  have hidles := undisturbed_meets (k := some k.coroutine) hw
    (fun c hc => upTo_of_prefix hpre hlast hc) ((hE.heedful ⟨0⟩).run (some k) a t)
    (fun c => (hE.heedful c).runs (some k) a t)
    (hunvisited.mono (fun _ _ h => h) (fun _ h => h.elim) fun _ h => h)
  exact ((hidles.and hunvisited).with_cut fun u hu => hu).mono (fun _ _ h => h.1) (fun _ h => h.2.elim)
    fun _ h => h.2

/-! ### On the way of a request -/

namespace Underway

variable {W : Watch} {S : World L → Prop} {E : Engine L} {cs ds : List CoroutineId} {i : CoroutineId} {w v : World L}
  {r : CoroutineRecord L} {x : Effect L α} {f : α → Effect L β} {Q : Post L β}

theorem start (hw : w.Drawn cs) (hi : i ∈ cs) : Underway W cs ds i w (w.coroutine i) w :=
  ⟨hw, hi, rfl, .refl w, fun _ _ _ => .refl _ _ _, fun _ _ _ => rfl, fun _ _ _ => .refl _ _ _⟩

theorem found (h : Underway W cs ds i w r v) : At i r v :=
  ⟨h.drawn.has i h.mem, h.drawn.orderly, h.record⟩

/-- From a world to a later one, in which at most the record of the coroutine has changed. -/
theorem step {r' : CoroutineRecord L} {u : World L} (h : Underway W cs ds i w r v) (hu : u.Orderly)
    (hg : Grown v u) (hr : u.coroutine i = r') (ho : ∀ c, c ≠ i → u.coroutine c = v.coroutine c)
    (ht : i ∈ cs.dropLast → r.IsTied → r'.IsTied) : Underway W cs ds i w r' u where
  drawn := by
    refine ⟨hu, fun c hc => Nat.lt_of_lt_of_le (h.drawn.has c hc) hg.count, fun c hc => ?_⟩
    by_cases hci : c = i
    · subst hci
      exact hr ▸ ht hc (h.record ▸ h.drawn.tied c hc)
    · rw [ho c hci]
      exact h.drawn.tied c hc
  mem := h.mem
  record := hr
  grown := h.grown.trans hg
  others c hc hci := by
    rw [ho c hci]
    exact h.others c hc hci
  same c hc hci := (ho c hci).trans (h.same c hc hci)
  gone c hci hs := by
    rw [ho c hci]
    exact h.gone c hci hs

theorem modified (h : Underway W cs ds i w r v) {g : CoroutineRecord L → CoroutineRecord L}
    (ht : i ∈ cs.dropLast → r.IsTied → (g r).IsTied) :
    Underway W cs ds i w (g r) (v.modifyCoroutine i g) := by
  obtain ⟨-, hr⟩ := modified_of_has h.found.has g
  refine h.step ⟨h.drawn.orderly.borrowed, h.drawn.orderly.hook⟩ (.modifyCoroutine v i g)
    (hr.trans (congrArg g h.record)) (fun c hc => (modified_other v (Ne.symm hc) g).2) ht

theorem then_record {f : CoroutineRecord L → Effect L β} (h : Underway W cs ds i w r v)
    (next : Meets (f r) v Q) : Meets (recordOf i >>= f) v Q := .then_record h.found next

theorem then_modify (h : Underway W cs ds i w r v) {g : CoroutineRecord L → CoroutineRecord L}
    {f : Unit → Effect L β} (ht : i ∈ cs.dropLast → r.IsTied → (g r).IsTied)
    (next : ∀ u, Underway W cs ds i w (g r) u → Meets (f ()) u Q) :
    Meets (modifyCoroutine i g >>= f) v Q := ⟨(next _ (h.modified ht)).holds⟩

/-- A note about the coroutine that depends on the world. -/
theorem then_note (h : Underway W cs ds i w r v) {g : World L → CoroutineRecord L → CoroutineRecord L}
    {f : Unit → Effect L β} (ht : i ∈ cs.dropLast → r.IsTied → (g v r).IsTied)
    (next : ∀ u, Underway W cs ds i w (g v r) u → Meets (f ()) u Q) :
    Meets (.modify (fun w => w.modifyCoroutine i (g w)) >>= f) v Q :=
  ⟨(next _ (h.modified ht)).holds⟩

theorem then_update {γ : Type} (h : Underway W cs ds i w r v)
    {g : CoroutineRecord L → γ × CoroutineRecord L} {f : γ → Effect L β}
    (ht : i ∈ cs.dropLast → r.IsTied → (g r).2.IsTied)
    (next : ∀ u, Underway W cs ds i w (g r).2 u → Meets (f (g r).1) u Q) :
    Meets (updateCoroutine i g >>= f) v Q := by
  have hm := next _ (h.modified (g := fun _ => (g r).2) ht)
  rw [← h.record] at hm
  exact ⟨hm.holds⟩

theorem sure {Q : Post L α} (h : Underway W cs ds i w r v) (hx : Sure x)
    (hQ : ∀ a u, Underway W cs ds i w r u → Q.ok a u) : Meets x v Q := by
  refine hx.meets fun a u hc ha hg => hQ a u (h.step ?_ hg ?_ ?_ fun _ => id)
  · exact ⟨by rw [ha]; exact h.drawn.orderly.borrowed, by rw [ha]; exact h.drawn.orderly.hook⟩
  · rw [World.coroutine, hc]
    exact h.record
  · intro c _
    rw [World.coroutine, World.coroutine, hc]

theorem then_sure (h : Underway W cs ds i w r v) (hx : Sure x)
    (next : ∀ a u, Underway W cs ds i w r u → Meets (f a) u Q) : Meets (x >>= f) v Q :=
  .bind (h.sure hx next)

theorem then_ambient {γ : Type} {g : Ambient L → γ × Ambient L} {f : γ → Effect L β}
    (h : Underway W cs ds i w r v) (hb : ∀ a, (g a).2.borrowed = a.borrowed)
    (hh : ∀ a, (g a).2.hook = a.hook)
    (next : ∀ a u, Underway W cs ds i w r u → Meets (f a) u Q) : Meets (withAmbient g >>= f) v Q := by
  refine .then_eq (withAmbient_ok h.drawn.orderly) (next _ _ (h.step ⟨?_, ?_⟩ ?_ h.record ?_
    fun _ => id))
  · exact (hb _).trans h.drawn.orderly.borrowed
  · exact fun k hk => h.drawn.orderly.hook k ((hh _).symm.trans hk)
  · exact .of_fields rfl rfl rfl rfl rfl
  · exact fun _ _ => rfl

/-- What keeps the line calm. -/
theorem calmly {Q : Post L α} (h : Underway W cs [] i w r v) (hx : (calm W S cs).Kept x)
    (ok : ∀ a r' u, Underway W cs [] i w r' u → r.Idles W False r' → Grown v u → Q.ok a u)
    (panic : ∀ u, W.strict = false → Q.panic u)
    (stop : ∀ u, W.strict = false ∨ S u → Q.stop u) : Meets x v Q := by
  refine (hx v h.drawn).mono ?_ (fun u hu => panic u hu.1) stop
  intro a u hu
  refine ok a _ u ⟨hu.drawn, h.mem, rfl, h.grown.trans hu.grown, fun c hc hci => ?_,
    fun c hc => absurd hc List.not_mem_nil, fun c hci hs => ?_⟩ ?_ ?_
  · exact (h.others c hc hci).trans (hu.idles c hc)
  · exact (h.gone c hci hs).trans (hu.gone c ((h.gone c hci hs).status.trans hs))
  · exact h.record ▸ hu.idles i h.mem
  · exact hu.grown

theorem then_release {P : β → World L → Prop} (h : Underway W cs [] i w r v)
    (hx : (calm W S cs).Kept x)
    (next : ∀ a r' u, Underway W cs [] i w r' u → r.Idles W False r' → Grown v u →
      Meets (f a) u (.served W S P)) : Meets (x >>= f) v (.served W S P) :=
  .bind (h.calmly hx next (fun _ hs => hs) fun _ hs => hs)

end Underway

/-- A cleanup after a panic of which nothing is asked but that there are panics. -/
theorem Meets.served_onPanic {W : Watch} {S : World L → Prop} {x : Effect L α}
    {c : Effect L Unit} {w : World L} {P : α → World L → Prop} (h : Meets x w (.served W S P)) :
    Meets (x.onPanic c) w (.served W S P) :=
  .onPanic (h.mono (fun _ _ h => h)
    (fun _ hs => .of_all (fun _ _ => hs) (fun _ => .inl hs) fun _ => .inl hs) fun _ h => h)

/-- Where coroutines and the ambient state are as they were, a line is calm. -/
theorem Calm.of_same {W : Watch} {cs : List CoroutineId} {w v : World L} (hw : w.Drawn cs)
    (ho : v.Orderly) (hg : Grown w v) (hc : v.coroutines = w.coroutines) : Calm W cs w v := by
  have hsame (c : CoroutineId) : v.coroutine c = w.coroutine c := by
    rw [World.coroutine, World.coroutine, hc]
  have hrest {X : Watch} (c : CoroutineId) : (w.coroutine c).Idles X False (v.coroutine c) :=
    hsame c ▸ .refl _ _ _
  exact ⟨hw.of_rests ho hg fun c _ => (hrest (X := {}) c).toRests, hg, fun c _ => hrest c,
    fun c _ => hrest c⟩

/-- Computations that leave the coroutines alone and never panic leave a line calm. -/
theorem calm_of {W : Watch} {S : World L → Prop} {cs : List CoroutineId} {x : Effect L α} (hx : Harmless x)
    (hc : ∀ w, (x w).2.coroutines = w.coroutines) (ok : ∀ w : World L, w.Orderly → ∃ a, (x w).1 = .ok a) :
    (calm W S cs).Kept x := by
  intro w hw
  have hu := hx w
  have hc := hc w
  obtain ⟨a, ha⟩ := ok w hw.orderly
  refine ⟨?_⟩
  rcases h : x w with ⟨_ | _ | _, v⟩ <;> rw [h] at hu ha hc <;> cases ha
  exact .of_same hw (hu.orderly hw.orderly) hu.toGrown hc

theorem calm_ambient {W : Watch} {S : World L → Prop} {cs : List CoroutineId}
    {f : Ambient L → α × Ambient L} (hx : Quiet (withAmbient f)) : (calm W S cs).Kept (withAmbient f) :=
  calm_of hx.harmless (fun w => by unfold withAmbient; split <;> rfl) fun w hw => ⟨_, by rw [withAmbient_ok hw]⟩

namespace Hosting

variable {W : Watch} {S : World L → Prop} {E : Engine L} {cs : List CoroutineId}

theorem releaseAll (hE : Hosting W S E) (hp : cs <+: W.line) (vs : List Value) :
    (calm W S cs).Kept (E.releaseAll vs) := .releaseAll (hE.release hp) vs

theorem owning (hE : Hosting W S E) (hp : cs <+: W.line) (vs us : List Value) :
    (calm W S cs).Kept (E.owning vs (E.releaseAll us)) :=
  (hE.releaseAll hp us).onPanic (hE.releaseAll hp vs)

theorem discardStray (hE : Hosting W S E) (hp : cs <+: W.line) :
    (calm W S cs).Kept (discardStray E) := by
  refine .bind (calm_ambient fetchError_quiet) fun stray => ?_
  cases stray with
  | none => exact .pure _
  | some stray =>
    exact .bind (calm_of (log_still _ _ _).quiet.harmless (log_still _ _ _).coroutines fun _ _ => ⟨_, rfl⟩)
      fun _ => hE.releaseAll hp _

end Hosting

end CoroutineEngine
