import CoroutineEngine.Proofs.Parting
import CoroutineEngine.Proofs.Service

/-!
# Closing an await chain

Each link of a chain awaits the next one, which nobody else refers to. A close of the first link is passed
on from link to link; the bodies end from the last link to the first, and each gives up the link that it
awaited, which is torn down.

Results:
* `Chain.nodup`: no link occurs twice.
* `Chain.closes`: what a close of a chain does, link by link.
-/

namespace CoroutineEngine

variable {L : Language} {W : Watch} {P : Exception → Prop} {before rest cs : List CoroutineId}
  {i j : CoroutineId} {w u v : World L}

/-! ## Definitions -/

/-- The run is out of steps. -/
def OutOfSteps (w : World L) : Prop := w.clock = 0

/-- A body that waits with an activation lets an exception pass: when it is raised where the body waits, the
body ends by raising it, and leaves alone the line up to its own coroutine. -/
def LetsPass (W : Watch) (i : CoroutineId) (a : Activation L) : Prop :=
  ∃ N, ∀ n, N ≤ n → ∀ (context : Context) (e : Exception) (before : List CoroutineId) (u : World L),
    context.coroutine = i → before ++ [i] <+: W.line → u.Drawn (before ++ [i]) →
      Meets (proceed (.lenient L W n) (some context) n
          { a with waiting := .start, held := .exception e :: a.held } (.raised e)) u
        (.served W OutOfSteps fun exit v =>
          exit = .completed (.error e) ∧ Spared W (some i) (before ++ [i]) u v)

/-- A body that waits with an activation answers the cancellation signal by raising an exception of a kind,
and leaves alone the line up to its own coroutine. -/
def AnswersCancel (W : Watch) (P : Exception → Prop) (i : CoroutineId) (a : Activation L) : Prop :=
  ∃ N, ∀ n, N ≤ n → ∀ (context : Context) (before : List CoroutineId) (u : World L),
    context.coroutine = i → before ++ [i] <+: W.line → u.Drawn (before ++ [i]) →
      Meets (runBody (.lenient L W n) (some context) n a (.ofPending (.ofClass .generatorExit))) u
        (.served W OutOfSteps fun exit v =>
          (∃ e, exit = .completed (.error e) ∧ P e) ∧ Spared W (some i) (before ++ [i]) u v)

/-- A chain that starts with a link `i`, which awaits the first of the others. Each of the others has three
handles: the awaiter notes it, delegates to it, and holds the operand of its await. -/
inductive Chain (W : Watch) (last : CoroutineId → Activation L → Prop) (w : World L) :
    CoroutineId → List CoroutineId → Prop
  | innermost {i : CoroutineId} {a : Activation L} : (w.coroutine i).Waits a →
      (w.coroutine i).awaiting = none → last i a → Chain W last w i []
  | link {i j : CoroutineId} {rest : List CoroutineId} {a : Activation L} {target : Option String} :
      (w.coroutine i).Waits a → a.waiting = .delegate ⟨.coroutine j, .coroutine j, target⟩ →
      (w.coroutine i).awaiting = some (.coroutine j) → (w.coroutine j).handles = 3 → LetsPass W i a →
      Chain W last w j rest → Chain W last w i (j :: rest)

/-- A link was closed: the cancellation signal was delivered to its body, once, and it is finished and awaits
nothing. No releaser has closed it. -/
structure Closed (w v : World L) (c : CoroutineId) : Prop where
  status : (v.coroutine c).status = .finished
  awaiting : (v.coroutine c).awaiting = none
  attention : ∃ outlived, (v.coroutine c).attention =
    { (w.coroutine c).attention.resumed (some .generatorExit) with outlived }

/-- Links were closed, the last one first. -/
structure AllClosed (w v : World L) (line : List CoroutineId) : Prop where
  each : ∀ c ∈ line, Closed w v c
  order : line.Pairwise fun c d => d ∈ (v.coroutine c).history.outlived

/-- A coroutine was torn down and withdrawn from the registry. -/
structure TornDown (v : World L) (c : CoroutineId) : Prop where
  handles : (v.coroutine c).handles = 0
  untracked : Untracked c v

/-- Links that came later in a chain were closed and torn down. -/
structure Dissolved (w v : World L) (line : List CoroutineId) : Prop extends AllClosed w v line where
  torn : ∀ c ∈ line, TornDown v c

/-- What the body of a link has done when it hands over an exit. -/
structure Unravelled (W : Watch) (P : Exception → Prop) (before : List CoroutineId) (i : CoroutineId)
    (rest : List CoroutineId) (w : World L) (cs : List CoroutineId) (exit : Exit L) (u : World L) :
    Prop where
  line : cs = before ++ [i]
  raises : ∃ e, exit = .completed (.error e) ∧ P e
  grown : Grown w u
  outer : ∀ c ∈ before, (w.coroutine c).Idles W False (u.coroutine c)
  gone : ∀ c, c ∉ i :: rest → (w.coroutine c).status = .finished →
    (w.coroutine c).Idles {} False (u.coroutine c)
  counted : (u.coroutine i).handles = (w.coroutine i).handles
  attention : ∃ outlived, (u.coroutine i).attention =
    { (w.coroutine i).attention.resumed (some .generatorExit) with outlived } ∧ rest ⊆ outlived
  tail : Dissolved w u rest

/-- What a close of a link has done. -/
structure Unwound (W : Watch) (P : Exception → Prop) (before : List CoroutineId) (i : CoroutineId)
    (rest : List CoroutineId) (w : World L) (reply : Reply) (v : World L) : Prop where
  reply : ∃ e, P e ∧
    reply = if e.cls.isSubclassOf .generatorExit then .ok .none else .error e
  drawn : v.Drawn (before ++ [i])
  grown : Grown w v
  outer : ∀ c ∈ before, (w.coroutine c).Idles W False (v.coroutine c)
  gone : ∀ c, c ∉ i :: rest → (w.coroutine c).status = .finished →
    (w.coroutine c).Idles {} False (v.coroutine c)
  counted : (v.coroutine i).handles = (w.coroutine i).handles
  closed : AllClosed w v (i :: rest)
  torn : ∀ c ∈ rest, TornDown v c

/-- A kind of exceptions that a chain can end with: none is an exhaustion signal, and if one is a
cancellation signal, the plain cancellation signal is of the kind. -/
structure Coherent (P : Exception → Prop) : Prop where
  exhaustion : ∀ e, P e → e.cls.isSubclassOf .stopIteration = false
  cancellation : ∀ e e', P e → e.cls.isSubclassOf .generatorExit = true → e'.cls = .generatorExit →
    P e'

/-! ## Helpers -/

/-! ### Chains -/

namespace Chain

variable {last : CoroutineId → Activation L → Prop}

theorem waits (h : Chain W last w i rest) : ∀ c ∈ i :: rest, ∃ a, (w.coroutine c).Waits a := by
  induction h with
  | innermost hwait _ _ => exact fun c hc => ⟨_, List.mem_singleton.mp hc ▸ hwait⟩
  | link hwait _ _ _ _ _ ih =>
    intro c hc
    rcases List.mem_cons.mp hc with rfl | hc
    · exact ⟨_, hwait⟩
    · exact ih c hc

theorem has (h : Chain W last w i rest) : w.Has i := Classical.byContradiction fun hi => by
  obtain ⟨a, hwait⟩ := h.waits i List.mem_cons_self
  have hs := hwait.status
  rw [World.coroutine_eq_default (Nat.le_of_not_lt hi)] at hs
  exact absurd hs (show Status.unused ≠ .running by decide)

/-- A link determines those that come after it. -/
theorem unique {rest' : List CoroutineId} (h : Chain W last w i rest) (h' : Chain W last w i rest') :
    rest = rest' := by
  induction h generalizing rest' with
  | innermost _ hnone _ =>
    cases h' with
    | innermost _ _ _ => rfl
    | link _ _ hsome _ _ _ => exact absurd (hnone.symm.trans hsome) (by simp)
  | link _ _ hsome _ _ _ ih =>
    cases h' with
    | innermost _ hnone _ => exact absurd (hnone.symm.trans hsome) (by simp)
    | link _ _ hsome' _ _ htail =>
      obtain rfl : _ = _ := by simpa using hsome.symm.trans hsome'
      rw [ih htail]

/-- From a link on, a chain is a chain. -/
theorem from_link (h : Chain W last w i rest) (hj : j ∈ rest) :
    ∃ later, Chain W last w j later ∧ later.length < rest.length := by
  induction h with
  | innermost _ _ _ => exact absurd hj List.not_mem_nil
  | link _ _ _ _ _ htail ih =>
    rcases List.mem_cons.mp hj with rfl | hj
    · exact ⟨_, htail, Nat.lt_succ_self _⟩
    · obtain ⟨later, hlater, hlt⟩ := ih hj
      exact ⟨later, hlater, Nat.lt_succ_of_lt hlt⟩

/-- No link occurs twice. -/
theorem nodup (h : Chain W last w i rest) : (i :: rest).Nodup := by
  induction h with
  | innermost _ _ _ => simp
  | link hwait hdelegate hsome hthree hpass htail ih =>
    refine List.nodup_cons.mpr ⟨fun hi => ?_, ih⟩
    have hall := Chain.link hwait hdelegate hsome hthree hpass htail
    obtain ⟨later, hlater, hlt⟩ := hall.from_link hi
    rw [hall.unique hlater] at hlt
    exact absurd hlt (Nat.lt_irrefl _)

/-- Each link but the first one has three handles. -/
theorem three (h : Chain W last w i rest) : ∀ c ∈ rest, (w.coroutine c).handles = 3 := by
  induction h with
  | innermost _ _ _ => exact fun c hc => absurd hc List.not_mem_nil
  | link _ _ _ hthree _ _ ih =>
    intro c hc
    rcases List.mem_cons.mp hc with rfl | hc
    · exact hthree
    · exact ih c hc

/-- What is asked of the last link may be weakened. -/
theorem mono {last' : CoroutineId → Activation L → Prop} (h : Chain W last w i rest)
    (hlast : ∀ c a, last c a → last' c a) : Chain W last' w i rest := by
  induction h with
  | innermost hwait hnone h => exact .innermost hwait hnone (hlast _ _ h)
  | link hwait hdelegate hsome hthree hpass _ ih => exact .link hwait hdelegate hsome hthree hpass ih

/-- A chain whose first link waits as before, and whose other links are as they were. -/
theorem congr_head (h : Chain W last w i rest)
    (hwait : ∀ a, (w.coroutine i).Waits a → (u.coroutine i).Waits a)
    (hawait : (u.coroutine i).awaiting = (w.coroutine i).awaiting)
    (hu : ∀ c ∈ rest, u.coroutine c = w.coroutine c) : Chain W last u i rest := by
  induction h with
  | innermost hw hnone hlast => exact .innermost (hwait _ hw) (hawait.trans hnone) hlast
  | link hw hdelegate hsome hthree hpass _ ih =>
    have hj := hu _ List.mem_cons_self
    exact .link (hwait _ hw) hdelegate (hawait.trans hsome) (hj ▸ hthree) hpass
      (ih (fun _ => hj ▸ id) (hj ▸ rfl) fun c hc => hu c (List.mem_cons_of_mem _ hc))

/-- A chain whose links are as they were. -/
theorem congr (h : Chain W last w i rest) (hu : ∀ c ∈ i :: rest, u.coroutine c = w.coroutine c) :
    Chain W last u i rest :=
  have hi := hu i List.mem_cons_self
  h.congr_head (fun _ => hi ▸ id) (hi ▸ rfl) fun c hc => hu c (List.mem_cons_of_mem _ hc)

end Chain

/-! ### What the watch looks at -/

/-- The watch looks no further than a coroutine that has no claim on the next one. -/
theorem engaged_subset {line : List CoroutineId} (hp : before ++ [i] <+: line)
    (hs : (w.coroutine i).status ≠ .unused) (ha : (w.coroutine i).awaiting = none) :
    w.engaged line ⊆ before ++ [i] := by
  induction before generalizing line with
  | nil =>
    obtain ⟨rest, rfl⟩ := hp
    simp [World.engaged, hs, ha]
  | cons c before ih =>
    obtain ⟨rest, rfl⟩ := hp
    simp only [List.cons_append, World.engaged]
    refine List.cons_subset_cons _ ?_
    split
    · exact ih ⟨rest, by simp⟩
    · exact List.nil_subset _

/-- A body is looked at no further than up to its own coroutine. -/
theorem upTo_subset {line : List CoroutineId} {k : Context} (hp : before ++ [i] <+: line)
    (hk : k.coroutine = i) : upTo (some k) (w.engaged line) ⊆ before ++ [i] := by
  induction before generalizing line with
  | nil =>
    obtain ⟨rest, rfl⟩ := hp
    simp [World.engaged, upTo, isBodyOf, hk]
  | cons c before ih =>
    obtain ⟨rest, rfl⟩ := hp
    simp only [List.cons_append, World.engaged, upTo]
    refine List.cons_subset_cons _ ?_
    split
    · exact List.nil_subset _
    · split
      · exact ih ⟨rest, by simp⟩
      · exact List.nil_subset _

theorem World.mem_finished (hs : (w.coroutine i).status = .finished) : i ∈ w.finished := by
  have hi : i.index < w.coroutines.size := World.has_of_finished hs
  simp only [World.finished, List.mem_filter, List.mem_map, List.mem_range]
  exact ⟨⟨i.index, hi, rfl⟩, by simp [hs]⟩

/-! ### Links that are over -/

/-- What was done to a link that is over is not undone. -/
theorem Closed.gone {c : CoroutineId} (h : Closed w u c)
    (hv : (u.coroutine c).Idles {} False (v.coroutine c)) : Closed w v c where
  status := hv.status.trans h.status
  awaiting := hv.settled id h.awaiting
  attention := h.attention.imp fun _ ho => hv.attention.trans ho

theorem AllClosed.gone {line : List CoroutineId} (h : AllClosed w u line)
    (hv : ∀ c ∈ line, (u.coroutine c).Idles {} False (v.coroutine c)) : AllClosed w v line where
  each c hc := (h.each c hc).gone (hv c hc)
  order := h.order.imp_of_mem fun hc _ hd => by
    have ho : (v.coroutine _).history.outlived = (u.coroutine _).history.outlived :=
      congrArg Attention.outlived (hv _ hc).attention
    rw [ho]
    exact hd

theorem TornDown.gone {c : CoroutineId} (h : TornDown u c) (hc : u.Has c) (hg : Grown u v)
    (hv : (u.coroutine c).Idles {} False (v.coroutine c)) : TornDown v c :=
  ⟨hv.dead h.handles, fun hm => h.untracked (hg.withdrawn c hc hm)⟩

theorem Dissolved.gone {line : List CoroutineId} (h : Dissolved w u line) (hg : Grown u v)
    (hv : ∀ c ∈ line, (u.coroutine c).Idles {} False (v.coroutine c)) : Dissolved w v line where
  toAllClosed := h.toAllClosed.gone hv
  torn c hc := (h.torn c hc).gone (World.has_of_finished (h.each c hc).status) hg (hv c hc)

/-! ### The end of a delegation -/

theorem Calm.spared (h : Calm W cs w v) (k : Option CoroutineId) : Spared W k cs w v where
  orderly := h.drawn.orderly
  grown := h.grown
  idles c hc := (h.idles c hc).other id
  gone c _ := h.gone c

theorem Spared.trans {k : Option CoroutineId} (h : Spared W k cs w u) (h' : Spared W k cs u v) :
    Spared W k cs w v where
  orderly := h'.orderly
  grown := h.grown.trans h'.grown
  idles c hc := (h.idles c hc).trans (h'.idles c hc)
  gone c hk hs := (h.gone c hk hs).trans (h'.gone c hk ((h.gone c hk hs).status.trans hs))

/-- The line up to a coroutine `i`, which has no claim on the next one any more: `j`, which is finished, and
of which there are `m` handles. -/
structure Loose (W : Watch) (before : List CoroutineId) (i j : CoroutineId) (m : Nat) (w : World L) :
    Prop where
  drawn : w.Drawn (before ++ [i])
  status : (w.coroutine i).status = .running
  awaiting : (w.coroutine i).awaiting = none
  finished : (w.coroutine j).status = .finished
  handles : (w.coroutine j).handles = m
  nodup : w.registry.objects.Nodup

/-- A handle of a link that is over is given up. -/
theorem Loose.release {m : Nat} (h : Loose W before i j (m + 1) w) (hW : W.strict = true) (n : Nat)
    (hp : before ++ [i] <+: W.line) (hj : j ∉ before ++ [i]) :
    Meets ((Engine.lenient L W (n + 1)).release (.coroutine j)) w
      ⟨fun _ v => Calm W (before ++ [i]) w v ∧ Loose W before i j m v ∧ (m = 0 → Untracked j v),
        fun _ => False, fun _ => False⟩ := by
  have hu : (w.coroutine i).status ≠ .unused := by
    rw [h.status]
    decide
  have hf : (w.coroutine i).status ≠ .finished := by
    rw [h.status]
    decide
  refine (lenient_parts hW n hp (engaged_subset hp hu h.awaiting) hj h.drawn h.finished h.nodup).mono
    (fun _ v hv => ?_) (fun _ h => h) fun _ h => h
  obtain ⟨hcalm, hhandles, hlast⟩ := hv
  have hi := hcalm.idles i (by simp)
  refine ⟨hcalm, ⟨hcalm.drawn, hi.status.trans h.status, (hi.awaiting id hf).trans h.awaiting,
    hcalm.finished h.finished, ?_, hcalm.grown.nodup h.nodup⟩, fun hm => hlast ?_⟩
  · rw [hhandles, h.handles]
    rfl
  · rw [h.handles, hm]

theorem Meets.sure_onPanic {α : Type} {x : Effect L α} {c : Effect L Unit} {Q : α → World L → Prop}
    (h : Meets x w ⟨Q, fun _ => False, fun _ => False⟩) :
    Meets (x.onPanic c) w ⟨Q, fun _ => False, fun _ => False⟩ :=
  .onPanic (h.mono (fun _ _ h => h) (fun _ h => h.elim) fun _ h => h)

theorem Meets.then_owning {α β : Type} {x : Effect L α} {c : Effect L Unit} {f : α → Effect L β}
    {Q : α → World L → Prop} {R : Post L β}
    (h : Meets x w ⟨Q, fun _ => False, fun _ => False⟩) (next : ∀ a v, Q a v → Meets (f a) v R) :
    Meets (x.onPanic c >>= f) w R :=
  .bind (h.sure_onPanic.mono next (fun _ h => h.elim) fun _ h => h.elim)

theorem Meets.sure_releaseAll {E : Engine L} {x : Value} {Q : World L → Prop}
    (h : Meets (E.release x) w ⟨fun _ => Q, fun _ => False, fun _ => False⟩) :
    Meets (E.releaseAll [x]) w ⟨fun _ => Q, fun _ => False, fun _ => False⟩ :=
  .andFinally (h.mono (fun _ _ h => .pure h) (fun _ h => h.elim) fun _ h => h)

/-- A body notes that its coroutine awaits nothing any more. -/
theorem spared_unawaited (hi : i ∉ before) (hw : w.Drawn (before ++ [i])) :
    let v := w.modifyCoroutine i fun _ => { w.coroutine i with awaiting := none }
    Spared W (some i) (before ++ [i]) w v ∧ v.Drawn (before ++ [i]) := by
  intro v
  obtain ⟨-, hr⟩ := modified_of_has (hw.has i (by simp)) fun _ =>
    { w.coroutine i with awaiting := none }
  have hother (c) (hc : c ≠ i) : v.coroutine c = w.coroutine c := (modified_other w (Ne.symm hc) _).2
  have hg : Grown w v := .modifyCoroutine w _ _
  have ho : v.Orderly := ⟨hw.orderly.borrowed, hw.orderly.hook⟩
  refine ⟨⟨ho, hg, fun c _ => ?_, fun c hc _ => ?_⟩, hw.of_rests ho hg fun c hc => ?_⟩
  · by_cases hci : c = i
    · subst hci
      rw [hr]
      exact ⟨{ CoroutineRecord.Rests.refl (some c = some c) (w.coroutine c) with
        awaiting := fun h => absurd rfl h, settled := fun _ _ => rfl }, rfl, fun _ => rfl⟩
    · rw [hother c hci]
      exact .refl _ _ _
  · rw [hother c fun h => hc (congrArg some h.symm)]
    exact .refl _ _ _
  · rw [List.dropLast_concat] at hc
    rw [hother c fun h => hi (h ▸ hc)]
    exact .refl _ _

/-- The end of a delegation to a link that is over: the link is given up, and torn down. -/
theorem endDelegation_meets (hW : W.strict = true) (n : Nat) (hp : before ++ [i] <+: W.line)
    (hi : i ∉ before) (hj : j ∉ before ++ [i]) (hw : w.Drawn (before ++ [i]))
    (hs : (w.coroutine i).status = .running) (halive : 0 < (w.coroutine i).handles)
    (ha : (w.coroutine i).awaiting = some (.coroutine j)) (hfin : (w.coroutine j).status = .finished)
    (hthree : (w.coroutine j).handles = 3) (hn : w.registry.objects.Nodup) {k : Context}
    (hk : k.coroutine = i) (a : Activation L) (target : Option String) (e : Exception) :
    Meets (endDelegation (.lenient L W (n + 1)) (some k) a ⟨.coroutine j, .coroutine j, target⟩ (.error e)) w
      ⟨fun p v => p = .next { a with waiting := .start, held := .exception e :: a.held } (.raised e) ∧
        Spared W (some i) (before ++ [i]) w v ∧ v.Drawn (before ++ [i]) ∧ TornDown v j,
        fun _ => False, fun _ => False⟩ := by
  obtain ⟨hspared, hdrawn⟩ := spared_unawaited (W := W) hi hw
  obtain ⟨-, hr⟩ := modified_of_has (hw.has i (by simp)) fun _ =>
    { w.coroutine i with awaiting := none }
  have hji : j ≠ i := fun h => hj (h ▸ by simp)
  have hloose : Loose W before i j 3 (w.modifyCoroutine i fun _ =>
      { w.coroutine i with awaiting := none }) := by
    have hsame := (modified_other w (Ne.symm hji) fun _ => { w.coroutine i with awaiting := none }).2
    refine ⟨hdrawn, ?_, ?_, ?_, ?_, hspared.grown.nodup hn⟩
    · rw [hr]
      exact hs
    · rw [hr]
    · rw [hsame]
      exact hfin
    · rw [hsame]
      exact hthree
  generalize hu : (w.modifyCoroutine i fun _ => { w.coroutine i with awaiting := none }) = u at *
  have hlives : w.isAlive i = true := by
    simpa [World.isAlive] using Nat.ne_of_gt halive
  have first : Meets ((Engine.lenient L W (n + 1)).release (.coroutine j)) u _ :=
    hloose.release hW n hp hj
  refine .then_owning (Q := fun _ v => Calm W (before ++ [i]) u v ∧ Loose W before i j 2 v) ?_
    fun _ v₁ hv₁ => ?_
  · refine .then_gets ?_
    rw [hk, if_pos hlives]
    refine .then_eq (v := u) (a := some (.coroutine j)) ?_ (.sure_releaseAll ?_)
    · rw [← ha, ← hu]
      rfl
    · exact first.mono (fun _ _ h => ⟨h.1, h.2.1⟩) (fun _ h => h) fun _ h => h
  refine .then_owning (hv₁.2.release hW n hp hj) fun _ v₂ hv₂ => ?_
  refine .then_owning (hv₂.2.1.release hW n hp hj) fun _ v₃ hv₃ => .pure ⟨rfl, ?_, hv₃.1.drawn, ?_⟩
  · exact hspared.trans ((hv₁.1.trans (hv₂.1.trans hv₃.1)).spared _)
  · exact ⟨hv₃.2.1.handles, hv₃.2.2 rfl⟩

/-! ### The end of a request -/

/-- What a close is answered whose body raised an exception of the kind. -/
theorem Coherent.reply (hP : Coherent P) {e : Exception} (he : P e) {g : Bool} {reply : Reply}
    (h : (Automaton.closing (Automaton.answer g
      (Exit.completed (.error e) : Exit L).ending)).Shown i reply v) :
    reply = if e.cls.isSubclassOf .generatorExit then .ok .none else .error e := by
  have hseen := h.seen
  simp only [Exit.ending, Automaton.answer, hP.exhaustion e he, Bool.false_and, Bool.false_eq_true,
    if_false, Automaton.closing, Bool.or_false] at hseen
  split at hseen
  · rename_i hcancel
    rw [if_pos hcancel]
    simpa [Verdict.Seen] using hseen
  · rename_i hcancel
    rw [if_neg hcancel]
    simpa [Verdict.Seen] using hseen

/-- A close of a link whose body has unravelled what comes after it. -/
theorem Unwound.of_served (hW : W.exclusive = true) (hP : Coherent P) (hnodup : (i :: rest).Nodup)
    (hi : i ∉ before) {reply : Reply}
    (h : Served W i (w.coroutine i) (Unravelled W P before i rest w) Automaton.closing reply v) :
    Unwound W P before i rest w reply v := by
  obtain ⟨exit, hshown, cs, u, r₀, hdone, -, -, hv, hlands⟩ := h
  obtain ⟨rfl, ⟨e, rfl, he⟩, hgrown, houter, hgone, hcounted, ⟨outlived, hattention, hsub⟩, htail⟩ := hdone
  have hdeparts : (u.coroutine i).Departs W (v.coroutine i) := hlands
  have hrest (c) (hc : c ∈ rest) : c ≠ i := fun h => (List.nodup_cons.mp hnodup).1 (h ▸ hc)
  have htail' : Dissolved w v rest := htail.gone hv.grown fun c hc =>
    hv.gone c (hrest c hc) (htail.each c hc).status
  have hattention' := hdeparts.attention.trans hattention
  refine ⟨⟨e, he, hP.reply he hshown⟩, hv.drawn, hgrown.trans hv.grown, fun c hc => ?_, fun c hc hs => ?_,
    (hdeparts.counted hW).trans hcounted, ⟨fun c hc => ?_, ?_⟩, htail'.torn⟩
  · exact (houter c hc).trans (hv.others c (by simp [hc]) fun h => hi (h ▸ hc))
  · have hgone := hgone c hc hs
    exact hgone.trans (hv.gone c (fun h => hc (h ▸ List.mem_cons_self)) (hgone.status.trans hs))
  · rcases List.mem_cons.mp hc with rfl | hc
    · exact ⟨hdeparts.status, hdeparts.awaiting, _, hattention'⟩
    · exact htail'.each c hc
  · refine List.pairwise_cons.mpr ⟨fun d hd => ?_, htail'.order⟩
    rw [show (v.coroutine i).history.outlived = outlived from congrArg Attention.outlived hattention']
    exact hsub hd

/-! ### The run of a link -/

/-- A run that disturbs nobody is let pass. -/
theorem Meets.let_run {E : Engine L} {k : Option Context} {a : Activation L} {t : Transfer}
    {S : World L → Prop} {Q : Exit L → World L → Prop}
    (h : Meets (E.run k a t) w (.served W S fun exit u => W.objects k w u = false ∧ Q exit u)) :
    Meets ((E.under W).run k a t) w (.served W S Q) := by
  have hx := h.holds
  refine ⟨?_⟩
  simp only [Engine.under]
  rcases hw : E.run k a t w with ⟨_ | _ | _, u⟩ <;> rw [hw] at hx
  · simp only [hx.1, Bool.false_eq_true, if_false]
    exact hx.2
  · have hpanics : W.strict = false := hx
    split
    · exact .inl hpanics
    · dsimp only
      split
      · exact .inl hpanics
      · exact hpanics
  · split <;> exact hx

/-- Whoever is spared by a body stays drawn. -/
theorem Spared.drawn (h : Spared W (some i) (before ++ [i]) w v) (hi : i ∉ before)
    (hw : w.Drawn (before ++ [i])) : v.Drawn (before ++ [i]) :=
  hw.of_rests h.orderly h.grown fun c hc => by
    rw [List.dropLast_concat] at hc
    exact ((h.idles c (by simp [hc])).other fun hn => hi (Option.some.inj hn ▸ hc)).toRests

theorem Spared.undisturbed {k : Option CoroutineId} (h : Spared W k cs w v) {es : List CoroutineId}
    (hes : es ⊆ cs) : W.disturbed es w v = false := by
  refine Bool.or_eq_false_iff.mpr ⟨List.any_eq_false.mpr fun c hc => ?_, ?_⟩
  · simp [(h.idles c (hes hc)).visits]
  · rw [Bool.and_eq_false_iff]
    refine (Bool.eq_false_or_eq_true W.exclusive).symm.imp id fun he => ?_
    refine List.any_eq_false.mpr fun c hc => ?_
    simp [(h.idles c (hes hc)).counted he]

/-- The watch does not object to a body that spares the line up to its own coroutine. -/
theorem Spared.unobjected (h : Spared W (some i) (before ++ [i]) w v) (ht : W.tidy = none)
    (hp : before ++ [i] <+: W.line) {k : Context} (hk : k.coroutine = i) :
    W.objects (some k) w v = false := by
  simp [Watch.objects, ht, isBodyOf, h.undisturbed (upTo_subset hp hk)]

theorem Dissolved.of_attention {line : List CoroutineId} (h : Dissolved u v line)
    (hu : ∀ c ∈ line, (u.coroutine c).attention = (w.coroutine c).attention) : Dissolved w v line where
  each c hc := { h.each c hc with attention := hu c hc ▸ (h.each c hc).attention }
  order := h.order
  torn := h.torn

/-- What the run of a body does to a line that ends with its own coroutine, and to what came after it. -/
def Unravels (W : Watch) (P : Exception → Prop) (before : List CoroutineId) (i : CoroutineId)
    (rest : List CoroutineId) (u : World L) (exit : Exit L) (v : World L) : Prop :=
  (∃ e, exit = .completed (.error e) ∧ P e) ∧ Spared W (some i) (before ++ [i]) u v ∧ Dissolved u v rest

/-- The body of a link hands over what its run does. -/
theorem body_of_run (hexclusive : W.exclusive = true) (htidy : W.tidy = none) {n : Nat}
    (hline : before ++ i :: rest = W.line) (hnodup : W.line.Nodup) {a : Activation L}
    (run : ∀ (u : World L) (k : Context), k.coroutine = i → Grown w u → u.Drawn (before ++ [i]) →
      (∀ c ∈ rest, u.coroutine c = w.coroutine c) → (w.coroutine i).Launches (u.coroutine i) →
        Meets (runBody (.lenient L W n) (some k) n a (.ofPending (.ofClass .generatorExit))) u
          (.served W OutOfSteps (Unravels W P before i rest u))) :
    Body W OutOfSteps (.lenient L W (n + 1)) (before ++ [i]) (i :: rest) i w a .cancelled
      (Unravelled W P before i rest w) := by
  intro u r₀ frame t hu hlaunch hframe ht hattention
  cases ht
  rw [← hline] at hnodup
  have hp : before ++ [i] <+: W.line := ⟨rest, by simp [← hline]⟩
  have hi : i ∉ before := fun h => (List.nodup_append.mp hnodup).2.2 i h i List.mem_cons_self rfl
  have hrest (c) (hc : c ∈ rest) : c ≠ i := fun h =>
    (List.nodup_cons.mp (List.nodup_append.mp hnodup).2.1).1 (h ▸ hc)
  have hsame (c) (hc : c ∈ rest) : u.coroutine c = w.coroutine c :=
    hu.same c (List.mem_cons_of_mem _ hc) (hrest c hc)
  refine Meets.let_run ((run u ⟨i, (w.coroutine i).code, frame⟩ rfl hu.grown hu.drawn hsame
    (hu.record ▸ hlaunch)).mono ?_ (fun _ h => h) fun _ h => h)
  rintro exit v ⟨hraises, hspared, hdissolved⟩
  refine ⟨hspared.unobjected htidy hp rfl, before ++ [i], ?_, hp, by simp, hspared.drawn hi hu.drawn,
    fun _ _ => by rwa [List.dropLast_concat], ?_⟩
  · have hvi : v.Has i := hspared.grown.has (hu.drawn.has i (by simp))
    obtain ⟨-, hleft⟩ := modified_of_has hvi (·.noteSwitch v.ambient.handled v.finished)
    have hother (c) (hc : c ≠ i) : (v.leaving i).coroutine c = v.coroutine c :=
      (modified_other v (Ne.symm hc) _).2
    have hg : Grown v (v.leaving i) := .modifyCoroutine v i _
    have hself := hspared.idles i (by simp)
    rw [hu.record] at hself
    refine ⟨rfl, hraises, (hu.grown.trans hspared.grown).trans hg, fun c hc => ?_, fun c hc hs => ?_, ?_,
      ⟨v.finished, ?_, fun c hc => World.mem_finished (hdissolved.each c hc).status⟩, ?_⟩
    · have hci : c ≠ i := fun h => hi (h ▸ hc)
      rw [hother c hci]
      exact (hu.others c (by simp [hc]) hci).trans
        ((hspared.idles c (by simp [hc])).other fun h => hci (Option.some.inj h).symm)
    · have hci : c ≠ i := fun h => hc (h ▸ List.mem_cons_self)
      have hgone := hu.gone c hci hs
      rw [hother c hci]
      exact hgone.trans (hspared.gone c (fun h => hci (Option.some.inj h).symm) (hgone.status.trans hs))
    · exact (congrArg CoroutineRecord.handles hleft).trans
        ((hself.counted hexclusive).trans hlaunch.counted)
    · refine (congrArg CoroutineRecord.attention hleft).trans ?_
      have hresumed := hself.attention.trans hattention
      exact congrArg (fun a : Attention => { a with outlived := v.finished }) hresumed
    · refine (hdissolved.of_attention fun c hc => congrArg _ (hsame c hc)).gone hg fun c hc => ?_
      rw [hother c (hrest c hc)]
      exact .refl _ _ _
  · have hri := (hspared.idles i (by simp)).toRests
    rw [hu.record] at hri
    exact { hri with
      awaiting := fun h => absurd trivial h, settled := fun h => absurd trivial h
      attention := rfl }

/-- The cancellation signal is delivered as a new instance. -/
theorem deliver_cancel {E : Engine L} (hempty : ∀ w, E.release .none w = (.ok (), w)) (w : World L) :
    Meets (Transfer.deliver E (.ofPending (.ofClass .generatorExit))) w
      ⟨fun reply v => ∃ e, reply = .error e ∧ e.cls = .generatorExit ∧ v.coroutines = w.coroutines ∧
        v.ambient = w.ambient ∧ Grown w v, fun _ => False, fun _ => False⟩ := by
  have hmake := ((makeException_fresh .generatorExit [] w).and ((makeException_sure (L := L)
    .generatorExit []).meets (w := w) (Q := ⟨fun _ v => v.coroutines = w.coroutines ∧
      v.ambient = w.ambient ∧ Grown w v, fun _ => False, fun _ => False⟩)
      fun _ _ hc ha hg => ⟨hc, ha, hg⟩))
  refine .bind (.bind (hmake.mono (fun e v hv => ?_) (fun _ h => h.1.elim) fun _ h => h.1.elim))
  exact .pure (.then_eq (Effect.onPanic_ok (hempty v)) (.pure ⟨e, rfl, hv.1.1, hv.2⟩))

theorem World.Drawn.init (h : w.Drawn (cs ++ [j])) : w.Drawn cs where
  orderly := h.orderly
  has c hc := h.has c (List.mem_append_left _ hc)
  tied c hc := h.tied c (by simpa using List.dropLast_subset _ hc)

theorem Calm.init (h : Calm W (cs ++ [j]) w v) : Calm W cs w v :=
  ⟨h.drawn.init, h.grown, fun c hc => h.idles c (List.mem_append_left _ hc), h.gone⟩

/-- What is left to do for a link when the next one is over: to give it up. -/
theorem Unwound.ends (hstrict : W.strict = true) (hexclusive : W.exclusive = true) {n : Nat}
    (hline : before ++ i :: j :: rest = W.line) (hnodup : W.line.Nodup) {k : Context}
    (hk : k.coroutine = i) (a : Activation L) (target : Option String)
    (hs : (w.coroutine i).status = .running) (halive : 0 < (w.coroutine i).handles)
    (ha : (w.coroutine i).awaiting = some (.coroutine j)) (hthree : (w.coroutine j).handles = 3)
    (hopen : ∀ c ∈ j :: rest, (w.coroutine c).status ≠ .finished) (hn : w.registry.objects.Nodup)
    {reply : Reply} (hu : Unwound W P (before ++ [i]) j rest w reply u)
    (hv : Calm W ((before ++ [i]) ++ [j]) u v) (e : Exception) :
    Meets (endDelegation (.lenient L W (n + 1)) (some k) a ⟨.coroutine j, .coroutine j, target⟩ (.error e)) v
      ⟨fun p v' => p = .next { a with waiting := .start, held := .exception e :: a.held } (.raised e) ∧
        Spared W (some i) (before ++ [i]) w v' ∧ v'.Drawn (before ++ [i]) ∧ Dissolved w v' (j :: rest),
        fun _ => False, fun _ => False⟩ := by
  rw [← hline] at hnodup
  obtain ⟨-, hnodup, hapart⟩ := List.nodup_append.mp hnodup
  have hi : i ∉ before := fun h => hapart i h i List.mem_cons_self rfl
  have hlater (c) (hc : c ∈ j :: rest) : c ∉ before ++ [i] := fun h => by
    rcases List.mem_append.mp h with h | h
    · exact hapart c h c (List.mem_cons_of_mem _ hc) rfl
    · rw [List.mem_singleton.mp h] at hc
      exact (List.nodup_cons.mp hnodup).1 hc
  have hp : before ++ [i] <+: W.line := ⟨j :: rest, by simp [← hline]⟩
  have hf : (w.coroutine i).status ≠ .finished := by
    rw [hs]
    decide
  have hidles := (hu.outer i (by simp)).trans (hv.idles i (by simp))
  have hjidles := hv.idles j (by simp)
  have hspared : Spared W (some i) (before ++ [i]) w v := by
    refine ⟨hv.drawn.orderly, hu.grown.trans hv.grown, fun c hc => ?_, fun c hc hs => ?_⟩
    · exact ((hu.outer c hc).trans (hv.idles c (List.mem_append_left _ hc))).other id
    · have hgone := hu.gone c (fun h => hopen c h hs) hs
      exact hgone.trans (hv.gone c (hgone.status.trans hs))
  refine (endDelegation_meets hstrict n hp hi (hlater j List.mem_cons_self) hv.drawn.init
    (hidles.status.trans hs) ((hidles.counted hexclusive).symm ▸ halive) ((hidles.awaiting id hf).trans ha)
    (hjidles.status.trans (hu.closed.each j List.mem_cons_self).status)
    ((hjidles.counted hexclusive).trans (hu.counted.trans hthree)) (hspared.grown.nodup hn) hk a target
    e).mono ?_ (fun _ h => h) fun _ h => h
  rintro p v' ⟨rfl, hspared', hdrawn, htorn⟩
  have hgone (c) (hc : c ∈ j :: rest) : (v.coroutine c).Idles {} False (v'.coroutine c) :=
    hspared'.gone c (fun h => hlater c hc (by simp [← Option.some.inj h]))
      (hv.finished (hu.closed.each c hc).status)
  have hclosed := hu.closed.gone fun c hc => hv.gone c (hu.closed.each c hc).status
  refine ⟨rfl, hspared.trans hspared', hdrawn, hclosed.gone hgone, fun c hc => ?_⟩
  rcases List.mem_cons.mp hc with rfl | hr
  · exact htorn
  · have hstatus := (hu.closed.each c hc).status
    exact ((hu.torn c hr).gone (World.has_of_finished hstatus) hv.grown (hv.gone c hstatus)).gone
      (World.has_of_finished (hv.finished hstatus)) hspared'.grown (hgone c hc)

/-- The transfer of the cancellation signal to a link: the next one is closed, given up and torn down, and
the link goes on with what the close raised, or with the signal. -/
theorem passOn_meets (hstrict : W.strict = true) (hexclusive : W.exclusive = true) (hP : Coherent P) {n : Nat}
    (hline : before ++ i :: j :: rest = W.line) (hnodup : W.line.Nodup) {k : Context}
    (hk : k.coroutine = i) (a : Activation L) (target : Option String) (hw : w.Drawn (before ++ [i]))
    (hj : w.Has j) (hs : (w.coroutine i).status = .running) (halive : 0 < (w.coroutine i).handles)
    (ha : (w.coroutine i).awaiting = some (.coroutine j)) (hthree : (w.coroutine j).handles = 3)
    (hopen : ∀ c ∈ j :: rest, (w.coroutine c).status ≠ .finished) (hn : w.registry.objects.Nodup)
    (hclose : ∀ u : World L, u.coroutines = w.coroutines → u.Drawn ((before ++ [i]) ++ [j]) →
      u.registry.objects.Nodup → Meets (close (.lenient L W (n + 1)) j) u
        (.served W OutOfSteps (Unwound W P (before ++ [i]) j rest u))) :
    Meets (passOn (.lenient L W (n + 1)) (some k) a ⟨.coroutine j, .coroutine j, target⟩
        (.ofPending (.ofClass .generatorExit))) w
      (.served W OutOfSteps fun p v => ∃ e, P e ∧
        p = .next { a with waiting := .start, held := .exception e :: a.held } (.raised e) ∧
          Spared W (some i) (before ++ [i]) w v ∧ v.Drawn (before ++ [i]) ∧
            Dissolved w v (j :: rest)) := by
  have hE := hosting_lenient (L := L) W (n + 1) OutOfSteps
  refine .then_gets ?_
  show Meets (_ >>= _) w _
  refine .then_owning (deliver_cancel hE.empty w) ?_
  rintro _ u ⟨e, rfl, he, hc, hamb, hg⟩
  have hcancel : e.cls.isSubclassOf .generatorExit = true := by
    rw [he]
    decide
  have hsame (c : CoroutineId) : u.coroutine c = w.coroutine c := by
    rw [World.coroutine, World.coroutine, hc]
  have ho : u.Orderly := ⟨by rw [hamb]; exact hw.orderly.borrowed, by rw [hamb]; exact hw.orderly.hook⟩
  have hcalm : Calm W (before ++ [i]) w u := .of_same hw ho hg hc
  have hdrawn : u.Drawn ((before ++ [i]) ++ [j]) := by
    refine ⟨ho, fun c hc => ?_, fun c hc => ?_⟩
    · rcases List.mem_append.mp hc with hc | hc
      · exact hg.has (hw.has c hc)
      · rw [List.mem_singleton.mp hc]
        exact hg.has hj
    · rw [List.dropLast_concat] at hc
      rw [hsame]
      rcases List.mem_append.mp hc with hc | hc
      · exact hw.tied c (by rwa [List.dropLast_concat])
      · rw [List.mem_singleton.mp hc]
        exact .inr ⟨hs, by simp [ha]⟩
  dsimp only
  rw [if_pos hcancel]
  refine .bind (.served_onPanic ((hclose u hc hdrawn (hg.nodup hn)).mono (fun reply v hv => ?_)
    (fun _ h => h) fun _ h => h))
  have finish {e' : Exception} {v' : World L} (he' : P e') (hv' : Calm W ((before ++ [i]) ++ [j]) v v') :
      Meets (endDelegation (.lenient L W (n + 1)) (some k) a ⟨.coroutine j, .coroutine j, target⟩
          (.error e')) v'
        (.served W OutOfSteps fun p v => ∃ e, P e ∧
          p = .next { a with waiting := .start, held := .exception e :: a.held } (.raised e) ∧
            Spared W (some i) (before ++ [i]) w v ∧ v.Drawn (before ++ [i]) ∧
              Dissolved w v (j :: rest)) := by
    refine (hv.ends hstrict hexclusive hline hnodup hk a target (hsame i ▸ hs) (hsame i ▸ halive)
      (hsame i ▸ ha) (hsame j ▸ hthree) (fun c hc => hsame c ▸ hopen c hc) (hg.nodup hn) hv' e').mono
      ?_ (fun _ h => h.elim) fun _ h => h.elim
    rintro p x ⟨rfl, hspared, hdrawn, hdissolved⟩
    exact ⟨e', he', rfl, (hcalm.spared _).trans hspared, hdrawn, hdissolved.of_attention fun c _ => congrArg _ (hsame c)⟩
  obtain ⟨e', he', hreply⟩ := hv.reply
  by_cases hcancelled : e'.cls.isSubclassOf .generatorExit = true
  · rw [if_pos hcancelled] at hreply
    subst hreply
    exact .then_eq (Effect.onPanic_ok (hE.empty v))
      (finish (hP.cancellation e' e he' hcancelled he) ((calm W OutOfSteps _).refl hv.drawn))
  · rw [if_neg hcancelled] at hreply
    subst hreply
    have hp : (before ++ [i]) ++ [j] <+: W.line := ⟨rest, by simp [← hline]⟩
    exact .bind (.served_onPanic ((hE.release hp (.exception e) v hv.drawn).mono
      (fun _ _ hv' => finish he' hv') (fun _ h => h.1) fun _ h => h))

theorem Dissolved.nil : Dissolved w v [] where
  each _ hc := absurd hc List.not_mem_nil
  order := .nil
  torn _ hc := absurd hc List.not_mem_nil

/-! ## Closing a chain -/

/-- A close of a link that waits, if its body unravels what comes after it. -/
theorem close_of_run (hexclusive : W.exclusive = true) (htidy : W.tidy = none) (hP : Coherent P) {n : Nat}
    (hline : before ++ i :: rest = W.line) (hnodup : W.line.Nodup) {a : Activation L}
    (hwait : (w.coroutine i).Waits a) (hpending : (w.coroutine i).pending = none)
    (hw : w.Drawn (before ++ [i]))
    (run : ∀ (u : World L) (k : Context), k.coroutine = i → Grown w u → u.Drawn (before ++ [i]) →
      (∀ c ∈ rest, u.coroutine c = w.coroutine c) → (w.coroutine i).Launches (u.coroutine i) →
        Meets (runBody (.lenient L W n) (some k) n a (.ofPending (.ofClass .generatorExit))) u
          (.served W OutOfSteps (Unravels W P before i rest u))) :
    Meets (close (.lenient L W (n + 1)) i) w (.served W OutOfSteps (Unwound W P before i rest w)) := by
  have hbody := body_of_run hexclusive htidy hline hnodup run
  rw [← hline] at hnodup
  obtain ⟨-, hnodup, hapart⟩ := List.nodup_append.mp hnodup
  exact (waiting_serves (hosting_lenient W (n + 1) OutOfSteps) hwait hpending hw (by simp) .close
    hbody).mono (fun reply v hv => .of_served hexclusive hP hnodup
      (fun h => hapart i h i List.mem_cons_self rfl) hv) (fun _ h => h) fun _ h => h

/-- What a close of a chain does, link by link, at every sufficient depth of nesting. -/
theorem Chain.closes (hstrict : W.strict = true) (hexclusive : W.exclusive = true) (htidy : W.tidy = none)
    (hP : Coherent P) (hnodup : W.line.Nodup) (h : Chain W (AnswersCancel W P) w i rest)
    (hpending : ∀ c ∈ i :: rest, (w.coroutine c).pending = none)
    (halive : ∀ c ∈ i :: rest, 0 < (w.coroutine c).handles) :
    ∃ N, ∀ n, N ≤ n → ∀ (before : List CoroutineId) (u : World L), before ++ i :: rest = W.line →
      (∀ c ∈ i :: rest, u.coroutine c = w.coroutine c) → u.Drawn (before ++ [i]) →
        u.registry.objects.Nodup →
          Meets (close (.lenient L W n) i) u (.served W OutOfSteps (Unwound W P before i rest u)) := by
  induction h with
  | @innermost i a hwait hnone hanswers =>
    obtain ⟨N, hanswers⟩ := hanswers
    refine ⟨N + 1, fun n hN before u hline hsame hdrawn hn => ?_⟩
    obtain ⟨n, rfl⟩ : ∃ m, n = m + 1 := ⟨n - 1, by omega⟩
    have hi := hsame i List.mem_cons_self
    refine close_of_run hexclusive htidy hP hline hnodup (hi ▸ hwait)
      (hi ▸ hpending i List.mem_cons_self) hdrawn fun u₂ k hk _ hdrawn₂ _ _ => ?_
    have hp : before ++ [i] <+: W.line := ⟨[], by simp [← hline]⟩
    exact (hanswers n (by omega) k before u₂ hk hp hdrawn₂).mono
      (fun exit v hv => ⟨hv.1, hv.2, .nil⟩) (fun _ h => h) fun _ h => h
  | @link i j rest a target hwait hdelegate hawait hthree hpass htail ih =>
    obtain ⟨N, hpass⟩ := hpass
    obtain ⟨M, ih⟩ := ih (fun c hc => hpending c (List.mem_cons_of_mem _ hc))
      fun c hc => halive c (List.mem_cons_of_mem _ hc)
    refine ⟨N + M + 2, fun n hN before u hline hsame hdrawn hn => ?_⟩
    obtain ⟨n, rfl⟩ : ∃ m, n = m + 2 := ⟨n - 2, by omega⟩
    have hi := hsame i List.mem_cons_self
    have hp : before ++ [i] <+: W.line := ⟨j :: rest, by simp [← hline]⟩
    refine close_of_run hexclusive htidy hP hline hnodup (hi ▸ hwait)
      (hi ▸ hpending i List.mem_cons_self) hdrawn fun u₂ k hk hg₂ hdrawn₂ hsame₂ hlaunch => ?_
    rw [hi] at hlaunch
    have hrest (c) (hc : c ∈ j :: rest) : u₂.coroutine c = w.coroutine c :=
      (hsame₂ c hc).trans (hsame c (List.mem_cons_of_mem _ hc))
    have hhas : u₂.Has j := (htail.congr hrest).has
    have hopen (c) (hc : c ∈ j :: rest) : (u₂.coroutine c).status ≠ .finished :=
      ((htail.congr hrest).waits c hc).elim fun _ hwait => hwait.not_finished
    unfold runBody
    rw [hdelegate]
    refine .bind ((passOn_meets hstrict hexclusive hP hline hnodup hk { a with waiting := .start } target
      hdrawn₂ hhas hlaunch.status (hlaunch.counted ▸ halive i List.mem_cons_self)
      (hlaunch.awaiting.trans hawait) ((hrest j List.mem_cons_self) ▸ hthree) hopen (hg₂.nodup hn)
      fun u₃ hc₃ hdrawn₃ hn₃ => ?_).mono ?_ (fun _ h => h) fun _ h => h)
    · refine ih (n + 1) (by omega) (before ++ [i]) u₃ (by simp [hline]) (fun c hc => ?_) hdrawn₃ hn₃
      rw [World.coroutine, hc₃]
      exact hrest c hc
    · rintro p v ⟨e, he, rfl, hspared, hdrawn₄, hdissolved⟩
      have hne (c) (hc : c ∈ j :: rest) : some i ≠ some c := fun h => by
        rw [← hline] at hnodup
        exact (List.nodup_cons.mp (List.nodup_append.mp hnodup).2.1).1 (Option.some.inj h ▸ hc)
      exact (hpass (n + 1) (by omega) k e before v hk hp hdrawn₄).mono
        (fun exit v' hv' => ⟨⟨e, hv'.1, he⟩, hspared.trans hv'.2, hdissolved.gone hv'.2.grown
          fun c hc => hv'.2.gone c (hne c hc) (hdissolved.each c hc).status⟩)
        (fun _ h => h) fun _ h => h

end CoroutineEngine
