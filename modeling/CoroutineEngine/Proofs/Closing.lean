import CoroutineEngine.Proofs.Finalization
import CoroutineEngine.Proofs.Unwinding

/-!
# Closing and dropping await chains

A chain is closed by its driver, or by the release of the last handle of its first link. Both are told for
the engine on which releases that interfere with the chain are left out, and for the engine itself, in runs
in which no release interferes.

Results:
* `Chain.released`: what the release of the last handle of a chain does, link by link.
* `chain_closes`: from any moment of any run, a chain whose links let exceptions pass is closed and torn
  down, and an exception that its last link raises instead comes out of the close.
-/

namespace CoroutineEngine

variable {L : Language} {α : Type} {W : Watch} {P : Exception → Prop} {rest : List CoroutineId}
  {c i : CoroutineId} {w v u : World L} {E E' : Engine L}

/-! ## Definitions -/

/-- A watch on a line of which each coroutine is driven by the one before it, and referred to by nobody
else. -/
def Watch.chain (line : List CoroutineId) : Watch where
  strict := true
  line
  exclusive := true

/-- At every sufficient depth of nesting, a procedure does something. It does so if releases that interfere
with what is watched are left out, unless the run is out of steps; and it does so on the engine itself if no
release interferes. -/
def Attains (W : Watch) (x : Procedure L α) (w : World L) (Q : Engine L → α → World L → Prop) : Prop :=
  ∃ N, ∀ n, N ≤ n →
    Meets (x (.lenient L W n)) w ⟨Q (.lenient L W n), fun _ => False, OutOfSteps⟩ ∧
      ((x (.watched L W n) w).1 ≠ .stop →
        Meets (x (.ofDepth L n)) w ⟨Q (.ofDepth L n), fun _ => False, fun _ => False⟩)

/-- The exception cancels. -/
def Exception.Cancels (e : Exception) : Prop := e.cls.isSubclassOf .generatorExit = true

/-- The exception is neither a cancellation signal nor an exhaustion signal. -/
def Exception.IsOrdinary (e : Exception) : Prop :=
  e.cls.isSubclassOf .generatorExit = false ∧ e.cls.isSubclassOf .stopIteration = false

theorem Attains.mono {x : Procedure L α} {Q Q' : Engine L → α → World L → Prop} (h : Attains W x w Q)
    (hQ : ∀ E a v, Q E a v → Q' E a v) : Attains W x w Q' := by
  obtain ⟨N, h⟩ := h
  refine ⟨N, fun n hn => ⟨(h n hn).1.mono (fun a v => hQ _ a v) (fun _ h => h) fun _ h => h, fun hne => ?_⟩⟩
  exact ((h n hn).2 hne).mono (fun a v => hQ _ a v) (fun _ h => h) fun _ h => h

/-- Each link of a chain is alive if the first one is. -/
theorem Chain.alive {last : CoroutineId → Activation L → Prop} (h : Chain W last w c rest)
    (halive : 0 < (w.coroutine c).handles) : ∀ d ∈ c :: rest, 0 < (w.coroutine d).handles := by
  intro d hd
  rcases List.mem_cons.mp hd with rfl | hd
  · exact halive
  · exact h.three d hd ▸ Nat.succ_pos 2

section

variable {last : CoroutineId → Activation L → Prop}

/-- The first link of a chain is none of the others. -/
theorem Chain.ne_head (h : Chain W last w c rest) : ∀ d ∈ rest, d ≠ c := by
  rintro d hd rfl
  exact (List.nodup_cons.mp h.nodup).1 hd

theorem disposing_record (hi : w.Has c) :
    (w.disposing c).coroutine c = { w.coroutine c with finalized := true } :=
  (modified_of_has hi _).2

theorem disposing_other (hi : i ≠ c) : (w.disposing c).coroutine i = w.coroutine i :=
  (modified_other w (Ne.symm hi) _).2

theorem finalizing_record (hi : w.Has c) :
    (w.finalizing c).coroutine c = (w.coroutine c).noteFinalization := by
  have hlogged : (w.logging c "finalizing unclosed coroutine").Has c := by
    rw [World.Has, logging_coroutines]
    exact hi
  exact (modified_of_has hlogged _).2.trans (by rw [logging_coroutine])

theorem finalizing_other (hi : i ≠ c) : (w.finalizing c).coroutine i = w.coroutine i :=
  (modified_other _ (Ne.symm hi) _).2.trans
    (congrArg (fun t : Table (CoroutineRecord L) => t.get i.index) (logging_coroutines w c _))

/-- A chain whose first link is marked by its releaser. -/
theorem Chain.disposing (h : Chain W last w c rest) : Chain W last (w.disposing c) c rest := by
  refine h.congr_head (fun a ha => ?_) ?_ fun d hd => disposing_other (h.ne_head d hd)
  · rw [disposing_record h.has]
    exact { ha with }
  · rw [disposing_record h.has]

/-- A chain whose first link is about to be closed by its releaser. -/
theorem Chain.finalizing (h : Chain W last w c rest) : Chain W last (w.finalizing c) c rest := by
  refine h.congr_head (fun a ha => ?_) ?_ fun d hd => finalizing_other (h.ne_head d hd)
  · rw [finalizing_record h.has]
    exact { ha with }
  · rw [finalizing_record h.has]
    rfl

end

theorem Hosting.putBack {S : World L → Prop} {cs : List CoroutineId} (hE : Hosting W S E) (hp : cs <+: W.line)
    (saved : Option PendingException) : (calm W S cs).Kept (putBack E saved) :=
  .bind (calm_ambient (swapError_quiet _)) fun _ => hE.releaseAll hp _

/-- A chain was closed by the releaser of its first link, which has its last handle still. -/
structure Disposed (w v : World L) (c : CoroutineId) (rest : List CoroutineId) : Prop
    extends AllClosed w v (c :: rest) where
  torn : ∀ d ∈ rest, TornDown v d
  orderly : v.Orderly
  nodup : v.registry.objects.Nodup
  handles : (v.coroutine c).handles = 1

theorem Disposed.finished (h : Disposed w v c rest) : (v.coroutine c).status = .finished :=
  (h.each c List.mem_cons_self).status

/-- The last handle of the first link is given up when the chain is closed. -/
theorem Disposed.dropHandle {S : World L → Prop} (hE : Hosting W S E) (h : Disposed w v c rest) :
    Meets (dropHandle E c) v (.served W S fun _ u => Dissolved w u (c :: rest)) := by
  have hdrawn : v.Drawn [] :=
    ⟨h.orderly, fun _ hd => absurd hd List.not_mem_nil, fun _ hd => absurd hd List.not_mem_nil⟩
  refine (hE.dropHandle List.nil_prefix List.not_mem_nil hdrawn h.finished h.nodup).mono ?_
    (fun _ h => h) fun _ h => h
  rintro _ u ⟨hcalm, hhandles, huntracked⟩
  have hgone (d) (hd : d ∈ c :: rest) : (v.coroutine d).Idles {} False (u.coroutine d) :=
    hcalm.gone d (h.each d hd).status
  refine ⟨h.toAllClosed.gone hgone, fun d hd => ?_⟩
  rcases List.mem_cons.mp hd with rfl | hr
  · exact ⟨by rw [hhandles, h.handles], huntracked h.handles⟩
  · exact (h.torn d hr).gone (World.has_of_finished (h.each d hd).status) hcalm.grown (hgone d hd)

/-- A close succeeds if what the bodies raise cancels. -/
theorem Unwound.nothing {before : List CoroutineId} {reply : Reply} (h : Unwound W P before i rest w reply v)
    (hcancels : ∀ e, P e → e.Cancels) : reply = .ok .none := by
  obtain ⟨e, he, hreply⟩ := h.reply
  have hcancel : e.cls.isSubclassOf .generatorExit = true := hcancels e he
  rw [hreply, if_pos hcancel]

/-- A close of a chain by a releaser, before the error is put back and after it. -/
theorem Unwound.disposed (hexclusive : W.exclusive = true) (hn : w.registry.objects.Nodup) (hi : w.Has c)
    (hone : (w.coroutine c).handles = 1) {reply : Reply}
    (hu : Unwound W P [] c rest (w.disposing c) reply u) (hv : Calm W [c] u v) : Disposed w v c rest := by
  have hattention (d : CoroutineId) : ((w.disposing c).coroutine d).attention = (w.coroutine d).attention := by
    by_cases hdc : d = c
    · rw [hdc, disposing_record hi]
      rfl
    · rw [disposing_other hdc]
  have hgone (d) (hd : d ∈ c :: rest) : (u.coroutine d).Idles {} False (v.coroutine d) :=
    hv.gone d (hu.closed.each d hd).status
  have hclosed := hu.closed.gone hgone
  refine ⟨⟨fun d hd => { hclosed.each d hd with attention := ?_ }, hclosed.order⟩, fun d hd => ?_,
    hv.drawn.orderly, (hu.grown.trans hv.grown).nodup hn, ?_⟩
  · exact hattention d ▸ (hclosed.each d hd).attention
  · have hd := List.mem_cons_of_mem c hd
    exact (hu.torn d ‹_›).gone (World.has_of_finished (hu.closed.each d hd).status) hv.grown (hgone d hd)
  · rw [(hv.idles c List.mem_cons_self).counted hexclusive, hu.counted, disposing_record hi]
    exact hone

/-- A close of a chain by a releaser, which has nothing to report. -/
theorem Chain.disposed (hstrict : W.strict = true) (hexclusive : W.exclusive = true) (htidy : W.tidy = none)
    (hP : Coherent P) (hcancels : ∀ e, P e → e.Cancels) (hline : c :: rest = W.line)
    (h : Chain W (AnswersCancel W P) w c rest) (hw : w.Orderly) (hn : w.registry.objects.Nodup)
    (hpending : ∀ d ∈ c :: rest, (w.coroutine d).pending = none) (hone : (w.coroutine c).handles = 1) :
    ∃ N, ∀ n, N ≤ n →
      (∀ reply u, close (.lenient L W n) c (w.disposing c) = (.ok reply, u) → reply = .ok .none) ∧
        Meets (closeUnraisable (.lenient L W n) c) w
          (.served W OutOfSteps fun _ v => Disposed w v c rest) := by
  have hi := h.has
  have hhandles : ((w.disposing c).coroutine c).handles = 1 := by
    rw [disposing_record hi]
    exact hone
  have hpending' : ∀ d ∈ c :: rest, ((w.disposing c).coroutine d).pending = none := fun d hd => by
    by_cases hdc : d = c
    · rw [hdc, disposing_record hi]
      exact hpending c List.mem_cons_self
    · rw [disposing_other hdc]
      exact hpending d hd
  obtain ⟨N, hcloses⟩ := h.disposing.closes hstrict hexclusive htidy hP (hline ▸ h.nodup) hpending'
    (h.disposing.alive (hhandles ▸ Nat.one_pos))
  refine ⟨N, fun n hN => ?_⟩
  have hE := hosting_lenient (L := L) W n OutOfSteps
  have hdrawn : (w.disposing c).Drawn [c] :=
    World.drawn_single ⟨hw.borrowed, hw.hook⟩ h.disposing.has
  have hclose := hcloses n hN [] (w.disposing c) hline (fun _ _ => rfl) hdrawn hn
  refine ⟨fun reply u hu => (hclose.ok hu).nothing hcancels, ?_⟩
  refine .then_eq rfl (.then_eq (fetchError_apply ⟨hw.borrowed, hw.hook⟩) (.bind (.served_onPanic (.bind
    (hclose.mono (fun reply u hu => ?_) (fun _ h => h) fun _ h => h)))))
  cases hu.nothing hcancels
  refine .of_ok (hE.empty u) ((hE.putBack ⟨rest, hline⟩ _ u hu.drawn).mono (fun _ v hv => ?_)
    (fun _ h => h.1) fun _ h => h)
  exact hu.disposed hexclusive hn hi hone hv

/-- If a coroutine is closed by its releaser, there is nothing to report, and its last handle stays so. -/
structure Quietly (E : Engine L) (c : CoroutineId) (w : World L) : Prop where
  reply : ∀ reply v, close E c ((w.finalizing c).disposing c) = (.ok reply, v) → reply = .ok .none
  handles : ∀ v, closeUnraisable E c (w.finalizing c) = (.ok (), v) → (v.coroutine c).handles = 1

/-- The release of the last handle of a chain, link by link. -/
theorem Chain.released (hstrict : W.strict = true) (hexclusive : W.exclusive = true) (htidy : W.tidy = none)
    (hP : Coherent P) (hcancels : ∀ e, P e → e.Cancels) (hline : c :: rest = W.line)
    (h : Chain W (AnswersCancel W P) w c rest) (hw : Tended c w)
    (hpending : ∀ d ∈ c :: rest, (w.coroutine d).pending = none) (hone : (w.coroutine c).handles = 1)
    (hfinalized : (w.coroutine c).finalized = false) :
    ∃ N, ∀ n, N ≤ n → Quietly (.lenient L W n) c w ∧
      Meets (releaseCoroutine (.lenient L W n) c) w
        (.served W OutOfSteps fun _ u => Dissolved (w.finalizing c) u (c :: rest)) := by
  have hi := h.has
  have hlogged := logging_tended hw "finalizing unclosed coroutine"
  have hone' : ((w.finalizing c).coroutine c).handles = 1 := by
    rw [finalizing_record hi]
    exact hone
  have hpending' : ∀ d ∈ c :: rest, ((w.finalizing c).coroutine d).pending = none := fun d hd => by
    by_cases hdc : d = c
    · rw [hdc, finalizing_record hi]
      exact hpending c List.mem_cons_self
    · rw [finalizing_other hdc]
      exact hpending d hd
  obtain ⟨N, hdisposed⟩ := h.finalizing.disposed hstrict hexclusive htidy hP hcancels hline
    ⟨hlogged.orderly.borrowed, hlogged.orderly.hook⟩ hlogged.nodup hpending' hone'
  have hlast : (w.coroutine c).handles = 1 ∧ (!(w.coroutine c).finalized) = true ∧
      (w.coroutine c).isSuspended = true := by
    obtain ⟨a, ha⟩ := h.waits c List.mem_cons_self
    exact ⟨hone, by simp [hfinalized], by simp [CoroutineRecord.isSuspended, ha.status, ha.running]⟩
  refine ⟨N, fun n hN => ⟨⟨(hdisposed n hN).1, fun v hv => ((hdisposed n hN).2.ok hv).handles⟩,
    .served_andFinally (.then_gets ?_) fun v hv =>
      Disposed.dropHandle (hosting_lenient W n OutOfSteps) hv⟩⟩
  simp only [if_pos hlast]
  refine .then_eq (logCoroutine_apply _ _ _) (.then_eq rfl (.bind ((hdisposed n hN).2.mono
    (fun _ v hv => ?_) (fun _ h => h) fun _ h => h)))
  refine .then_gets ?_
  rw [if_neg (by rw [hv.handles]; decide)]
  exact .pure hv

/-- A driver builds a chain of three coroutines, of which the last one yields for ever, and keeps the first one
only. -/
def stack (E : Engine Script.language) : Effect Script.language Unit := do
  launch "ticker" [.loop none [.yield .none none]] E
  launch "relay" [.await (.slot "ticker") none] E
  launch "front" [.await (.slot "relay") none] E
  let _ ← perform E .outer (.dropSlot "ticker")
  let _ ← perform E .outer (.dropSlot "relay")

end CoroutineEngine
