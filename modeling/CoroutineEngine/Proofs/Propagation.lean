import CoroutineEngine.Proofs.Crossing

/-!
# The way of an exception through an await chain

An exception that is thrown into a chain reaches the body of the last link with the traceback that it had. If
no body catches it, it comes out of the request as the same instance, with the frames of all links in front of
its traceback, unless somebody lays hands on it on the way.

Results:
* `exceptions_cross`: from any moment of any run, a chain passes an exception on, and lets it out.
* `forger_strips`: a body that catches nothing may end with the last handle of a coroutine that, when it is
  closed, takes the traceback off.
-/

namespace CoroutineEngine

variable {L : Language} {α : Type}

/-! ## Definitions -/

/-- The run is cut, in a world of which something holds. -/
def Cuts (x : Effect L α) (w : World L) (S : World L → Prop) : Prop := ∃ v, x w = (.stop, v) ∧ S v

/-- A body goes on, and has to end by raising an instance, which then has a traceback. -/
def raisingWith (e : Exception) (t : Option Traceback) : BodyRun L := fun n k a x =>
  (runBody (.ofDepth L n) k n a x).only fun _ exit u =>
    exit.raisesOnly e && (decide (e.index < u.exceptions.size) && (u.exception e).traceback == t)

/-- What becomes of exceptions on a chain that starts with a coroutine.

* `reached`: an ordinary exception that is thrown into the chain gets to the body of the last link, with the
  traceback that it had: whatever that body does to cut the run then, cuts the run of the throw.
* `surfaces`: in any request on the chain, the body of the last link ends by raising an ordinary exception, and no
  other body catches it. Then it comes out of the request, and the links are finished. If its traceback is left
  alone on the way, that is an entry for each link, in front of what it was when the exception was raised. An
  entry has the name of the frame of its link, and its line too, unless that is changed after the exception has
  left the frame.
* `late`: a throw into a finished coroutine gives the exception back, and changes no instance. -/
structure Crosses (w : World L) (c : CoroutineId) : Prop where
  reached : ∀ (rest : List CoroutineId) (frames : List Frame), AwaitChain w c rest frames →
    ∀ e : Exception, e.IsOrdinary → ∀ (care : Care) (last : BodyRun L) (S : World L → Prop),
      (∀ m k a x u, Reached w (rest.getLastD c) (.throw e) k a x u → Cuts (last m k a x) u S) →
        ∀ n, rest.length < n → Cuts (throwException (.escort e care last n frames) c e) w S
  surfaces : ∀ (rest : List CoroutineId) (frames : List Frame), AwaitChain w c rest frames →
    ∀ e : Exception, e.IsOrdinary → ∀ (care : Care) (t : Option Traceback) (d : Demand) (n : Nat),
      (d.request (.escort e care (raisingWith e t) n frames) c w).1 ≠ .stop →
        ∃ v, d.request (.ofDepth L n) c w = (.ok (.error e), v) ∧ Crossed w e care frames t (c :: rest) v
  late : (w.coroutine c).status = .finished → ∀ (E : Engine L) (e : Exception),
    ∃ v, throwException E c e w = (.ok (.error e), v) ∧ w.SameInstances v

/-- The frames of coroutines. -/
def World.framesOf (w : World L) (cs : List CoroutineId) : List Frame := cs.filterMap fun c => (w.coroutine c).frame

/-- What the traceback of an instance says, the outermost frame first. -/
def World.told (w : World L) (e : Exception) : List (String × UInt32) :=
  (entriesOf (w.exception e).traceback).map fun entry => (entry.name, entry.line)

/-- The exception that comes out of a request. -/
def raised? : Outcome Reply → Option Exception
  | .ok (.error e) => some e
  | _ => none

/-- Whether a coroutine awaits the first of others, each of these the next one, and the last one nothing. -/
def World.showsAwaits (w : World L) (c : CoroutineId) : List CoroutineId → Bool
  | [] => (w.coroutine c).waiting?.any (·.waiting.isDelivery)
  | d :: rest => ((w.coroutine c).waiting?.any fun a =>
      match a.waiting with
      | .delegate g => w.driven? g.delegate == some d
      | _ => false) && w.showsAwaits d rest

/-! ## Helpers -/

variable {e : Exception} {care : Care} {t : Option Traceback} {rest : List CoroutineId} {c : CoroutineId} {w u : World L}
  {d : Demand}

/-- A request that is cut in any case is cut. -/
theorem Meets.cuts {x : Effect L α} {S : World L → Prop} {P : α → World L → Prop}
    (h : Meets x w (.crossing False S P)) : Cuts x w S := by
  have hx := h.holds
  rcases hw : x w with ⟨a | m | _, v⟩ <;> rw [hw] at hx
  · exact absurd hx.1 not_false
  · exact hx.elim
  · exact ⟨v, hw, hx⟩

theorem Cuts.meets {x : Effect L α} {S : World L → Prop} {P : α → World L → Prop} (h : Cuts x w S) :
    Meets x w (.crossing False S P) := by
  obtain ⟨v, hv, hS⟩ := h
  refine ⟨?_⟩
  rw [hv]
  exact hS

theorem extends_raisingWith (e : Exception) (t : Option Traceback) (n : Nat) (k : Option Context)
    (a : Activation L) (x : Transfer) : (runBody (.ofDepth L n) k n a x).Extends (raisingWith e t n k a x) :=
  Effect.extends_only _ _

theorem raisingWith_meets (hu : u.Orderly) (n : Nat) (k : Option Context) (a : Activation L) (x : Transfer) :
    Meets (raisingWith e t n k a x) u (.crossing True (fun _ => True) fun exit v =>
      exit = .completed (.error e) ∧ Crossed u e care [] t [] v) := by
  have hE := heedful_ofDepth (L := L) ⟨0⟩ n
  refine ((onward_universal.client hE.toUpheld (Client.runBody n a x) u hu).only _).mono ?_ (fun _ h => h)
    fun _ _ => trivial
  rintro exit v ⟨⟨ho, hg⟩, hgood⟩
  obtain ⟨hexit, hmade, htrace⟩ := by simpa only [Bool.and_eq_true_iff, decide_eq_true_eq] using hgood
  refine ⟨trivial, Exit.eq_of_raisesOnly hexit, ho, hg.toGrown, hmade, fun _ => ⟨[], ?_, .nil⟩,
    fun c hc => absurd hc List.not_mem_nil⟩
  rw [beq_iff_eq.mp htrace]
  rfl

theorem eq_of_raised {ending : Outcome Reply} (h : raised? ending = some e) : ending = .ok (.error e) := by
  rcases ending with ⟨e' | y⟩ | m | _ <;> simp only [raised?, reduceCtorEq, Option.some.injEq] at h
  rw [h]

/-- What is seen of a chain is a chain. -/
theorem awaitChain_of_shown (h : w.showsAwaits c rest = true) :
    AwaitChain w c rest (w.framesOf (c :: rest)) := by
  have framed {c : CoroutineId} {a : Activation L} (ha : (w.coroutine c).waiting? = some a) :
      ∃ f, (w.coroutine c).frame = some f ∧ ∀ cs, w.framesOf (c :: cs) = f :: w.framesOf cs := by
    obtain ⟨f, hf⟩ := Option.ne_none_iff_exists'.mp (CoroutineRecord.waits_of_waiting ha).frame
    exact ⟨f, hf, fun cs => List.filterMap_cons_some hf⟩
  induction rest generalizing c with
  | nil =>
    obtain ⟨a, ha, hdelivery⟩ := (Option.any_eq_true ..).mp h
    obtain ⟨f, hf, hframes⟩ := framed ha
    obtain ⟨target, htarget⟩ := Waiting.eq_of_isDelivery hdelivery
    rw [hframes]
    exact .innermost (CoroutineRecord.waits_of_waiting ha) hf htarget
  | cons d rest ih =>
    obtain ⟨hwait, htail⟩ := Bool.and_eq_true_iff.mp h
    obtain ⟨a, ha, hdelegate⟩ := (Option.any_eq_true ..).mp hwait
    obtain ⟨f, hf, hframes⟩ := framed ha
    rw [hframes]
    cases hg : a.waiting with
    | start => simp [hg] at hdelegate
    | delivery target => simp [hg] at hdelegate
    | delegate g =>
      simp only [hg] at hdelegate
      exact .link (CoroutineRecord.waits_of_waiting ha) hf hg (beq_iff_eq.mp hdelegate) (ih htail)

/-! ### Throws and other requests -/

/-- An ordinary exception that is thrown into a chain reaches the body of the last link. -/
theorem AwaitChain.reached {frames : List Frame} (h : AwaitChain w c rest frames) (hw : w.Orderly)
    (hp : ∀ d ∈ c :: rest, (w.coroutine d).pending = none) (he : e.IsOrdinary) (care : Care) {last : BodyRun L}
    {S : World L → Prop}
    (hlast : ∀ m k a x u, Reached w (rest.getLastD c) (.throw e) k a x u → Cuts (last m k a x) u S) {n : Nat}
    (hn : rest.length < n) : Cuts (throwException (.escort e care last n frames) c e) w S := by
  have hpassed : (Demand.throw e).atEnd rest = .throw e := by
    cases rest with
    | nil => rfl
    | cons j rest => simp [Demand.atEnd, Demand.passed, he.1]
  have hm : Meets ((Demand.throw e).request (.escort e care last n frames) c) w
      (.crossing False S fun reply v => reply = .error e ∧ Crossed w e care frames none (c :: rest) v) :=
    h.surfaces he.2 he.1 False.elim hw hp (.throw e) n (.inl hn) fun m k a x u hu =>
      (hlast m k a x u (hpassed ▸ hu)).meets
  exact hm.cuts

/-- An ordinary exception that the body of the last link raises comes out of a request, unless another body
catches it. -/
theorem AwaitChain.lets_out {frames : List Frame} (h : AwaitChain w c rest frames) (hw : w.Orderly)
    (hp : ∀ d ∈ c :: rest, (w.coroutine d).pending = none) (he : e.IsOrdinary) (d : Demand) (n : Nat)
    (hstop : (d.request (.escort e care (raisingWith e t) n frames) c w).1 ≠ .stop) :
    ∃ v, d.request (.ofDepth L n) c w = (.ok (.error e), v) ∧ Crossed w e care frames t (c :: rest) v := by
  have hsame := (d.request_client c (k := none)).extends (ofDepth_extends_escort (e := e) care
    (extends_raisingWith e t) n frames) w hstop
  have hm : Meets (d.request (.escort e care (raisingWith e t) n frames) c) w (.crossing True (fun _ => True)
      fun reply v => reply = .error e ∧ Crossed w e care frames t (c :: rest) v) :=
    h.surfaces he.2 he.1 (fun _ _ => trivial) hw hp d n (.inr fun _ => trivial) fun m k a x u hu =>
      raisingWith_meets hu.orderly m k a x
  have hx := hm.holds
  rw [hsame]
  rcases hr : d.request (.escort e care (raisingWith e t) n frames) c w with ⟨reply | m | _, v⟩ <;>
    rw [hr] at hx hstop
  · obtain ⟨-, rfl, hv⟩ := hx
    exact ⟨v, rfl, hv⟩
  · exact hx.elim
  · exact absurd rfl hstop

/-- A finished coroutine gives back what is thrown into it. -/
theorem throw_late (hfin : (w.coroutine c).status = .finished) (hr : (w.coroutine c).running = false)
    (E : Engine L) (e : Exception) : ∃ v, throwException E c e w = (.ok (.error e), v) ∧ w.SameInstances v := by
  have hrun : ¬ (w.coroutine c).running = true := by simp [hr]
  obtain ⟨v, hv, hsame⟩ := instantiate_same e w
  refine ⟨v, ?_, hsame⟩
  show throwPending E c ⟨e.cls, some e, (w.exception e).traceback⟩ w = _
  unfold throwPending
  rw [Effect.bind_ok (show recordOf c w = (.ok (w.coroutine c), w) from rfl)]
  simp only [if_neg hrun, if_pos hfin]
  rw [Effect.bind_ok hv]
  rfl

/-! ## Chains in runs -/

/-- At any moment of any run, a chain passes on an exception that is thrown into it, and lets one out that is
raised by its last link. -/
theorem exceptions_cross {clock : Nat} (hw : Moment {} (World.fresh clock) w) (c : CoroutineId) :
    Crosses w c := by
  have hlaw (d : CoroutineId) := (hw.keeps (World.fresh_lawful _ d clock)).lawful
  have hpending {rest : List CoroutineId} {frames : List Frame} (h : AwaitChain w c rest frames) :
      ∀ d ∈ c :: rest, (w.coroutine d).pending = none := fun d hd => by
    obtain ⟨a, ha⟩ := h.waits d hd
    exact ha.pending (hlaw d).sound
  refine ⟨fun rest frames h e he care last S hlast n hn => ?_, fun rest frames h e he care t d n hstop => ?_,
    fun hfin E e => ?_⟩
  · exact h.reached (hlaw c).orderly (hpending h) he care hlast hn
  · exact h.lets_out (hlaw c).orderly (hpending h) he d n hstop
  · refine throw_late hfin (Bool.eq_false_iff.mpr fun hr => ?_) E e
    exact absurd (hfin.symm.trans ((hlaw c).sound.running hr).1) (by decide)

section

open Script (Block)

/-- The exception that the drivers below make first. -/
def mishap : Exception := ⟨0, .valueError⟩

/-- Makes an exception that has a traceback. -/
def provokeMishap (E : Engine Script.language) : Effect Script.language Unit := do
  let _ ← perform E .outer (.setSlot "mishap" (.exception (.builtinClass "ValueError") []))
  let _ ← perform E .outer (.setTraceback (.slot "mishap") (.traceback [("origin", 7)]))

theorem provokeMishap_client : Client none provokeMishap :=
  .bind (Client.perform .outer _) fun _ => .bind (Client.perform .outer _) fun _ => .pure ()

/-- Makes the exception, and builds a chain of three coroutines, and a coroutine that is over. -/
def buildRelay (E : Engine Script.language) : Effect Script.language Unit := do
  provokeMishap E
  launch "worker" [.perform (.setLine 3) none, .loop none [.yield .none none]] E
  launch "relay" [.await (.slot "worker") none] E
  launch "front" [.await (.slot "relay") none] E
  launch "over" [] E

/-- The world in which the chain stands. -/
def relayed : World Script.language := (buildRelay (.watched _ {} 40) (World.fresh 1000)).2

theorem relayed_moment : Moment {} (World.fresh 1000) relayed :=
  .of (x := buildRelay) 40 .refl (.bind provokeMishap_client fun _ => .bind (launch_client _ _) fun _ =>
    .bind (launch_client _ _) fun _ => .bind (launch_client _ _) fun _ => launch_client _ _)

theorem exceptions_cross_relay :
    AwaitChain relayed ⟨2⟩ [⟨1⟩, ⟨0⟩] (relayed.framesOf [⟨2⟩, ⟨1⟩, ⟨0⟩]) ∧
      ((Demand.throw mishap).request (.escort mishap ⟨true, fun _ => true⟩ (raisingWith mishap (relayed.exception mishap).traceback) 40
        (relayed.framesOf [⟨2⟩, ⟨1⟩, ⟨0⟩])) ⟨2⟩ relayed).1 ≠ .stop ∧ Crosses relayed ⟨2⟩ ∧
      (relayed.coroutine ⟨3⟩).status = .finished ∧ Crosses relayed ⟨3⟩ := by
  refine ⟨awaitChain_of_shown (by decide +kernel), ?_, exceptions_cross relayed_moment ⟨2⟩, ?_,
    exceptions_cross relayed_moment ⟨3⟩⟩
  · decide +kernel
  · decide +kernel

/-- Waits; when it is closed, it takes the traceback off the exception. -/
def forger : Block :=
  [.attempt [.yield .none none]
    [.mk (some (.builtinClass "GeneratorExit")) none false [.perform (.setTraceback (.slot "mishap") .none) none]] []]

/-- Keeps the forger in a local, and waits. -/
def keeper : Block := [.perform (.evaluate (.slot "forger")) (some "forger"), .yield .none none]

/-- Makes the exception, starts the two coroutines, and leaves the last handle of the forger to its keeper. -/
def employForger (E : Engine Script.language) : Effect Script.language Unit := do
  provokeMishap E
  launch "forger" forger E
  launch "keeper" keeper E
  let _ ← perform E .outer (.dropSlot "forger")

/-- The world in which the keeper waits. -/
def employed : World Script.language := (employForger (.watched _ {} 40) (World.fresh 1000)).2

/-- The keeper catches nothing. The exception that is thrown into it comes out with the frame of the keeper
alone, without the traceback that it had. -/
theorem forger_strips :
    Moment {} (World.fresh 1000) employed ∧ AwaitChain employed ⟨1⟩ [] (employed.framesOf [⟨1⟩]) ∧
      ((employed.coroutine ⟨1⟩).waiting?.any Script.isPlain = true ∧ mishap.IsOrdinary) ∧
      employed.told mishap = [("origin", 7)] ∧
      ∃ v, throwException (.ofDepth Script.language 40) ⟨1⟩ mishap employed = (.ok (.error mishap), v) ∧
        v.told mishap = [("keeper", 1)] := by
  refine ⟨?_, awaitChain_of_shown (by decide +kernel), ⟨by decide +kernel, by decide, by decide⟩, ?_, _,
    ends_of (eq_of_raised ?_), ?_⟩
  · refine .of (x := employForger) 40 .refl ?_
    exact .bind provokeMishap_client fun _ => .bind (launch_client _ _) fun _ =>
      .bind (launch_client _ _) fun _ => .bind (Client.perform .outer _) fun _ => .pure ()
  · decide +kernel
  · decide +kernel
  · decide +kernel

end

end CoroutineEngine
