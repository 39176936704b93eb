import CoroutineEngine.Proofs.Awaiting
import CoroutineEngine.Proofs.Normalization
import CoroutineEngine.Proofs.Refinement
import CoroutineEngine.Proofs.Surfacing

/-!
# Exceptions that cross an await chain

What is thrown into the first link of a chain is passed on from link to link, up to the body of the last one.
What that body raises leaves one link after another, and notes the frame of each.

Results:
* `AwaitChain.nodup`: no link occurs twice.
* `passOn_crosses`: a link hands a delivery on, and gets the exception from the next one.
* `AwaitChain.surfaces`: the same of a whole chain, whatever the body of the last link does.
-/

namespace CoroutineEngine

variable {L : Language} {α : Type}

/-! ## Definitions -/

/-- A chain that starts with a link `i`, and the frames of its links. Each body waits for the next link, the
last one for a delivery. -/
inductive AwaitChain (w : World L) : CoroutineId → List CoroutineId → List Frame → Prop
  | innermost {i : CoroutineId} {f : Frame} {a : Activation L} {target : Option String} :
      (w.coroutine i).Waits a → (w.coroutine i).frame = some f → a.waiting = .delivery target →
      AwaitChain w i [] [f]
  | link {i j : CoroutineId} {rest : List CoroutineId} {f : Frame} {frames : List Frame} {a : Activation L}
      {d : Delegation} :
      (w.coroutine i).Waits a → (w.coroutine i).frame = some f → a.waiting = .delegate d →
      w.driven? d.delegate = some j → AwaitChain w j rest frames → AwaitChain w i (j :: rest) (f :: frames)

/-- What a link does to the next one when it is given a request's delivery: a cancellation signal becomes a
close. -/
def Demand.passed : Demand → Demand
  | .throw e => if e.cls.isSubclassOf .generatorExit then .close else .throw e
  | .send v => .send v
  | .close => .close

/-- What a link does to the next one when it was given a reply. -/
def Demand.ofReply : Reply → Demand
  | .ok y => .send y
  | .error e => .throw e

/-- What is done to the last link of a chain in a request on the first one. -/
def Demand.atEnd (d : Demand) : List CoroutineId → Demand
  | [] => d
  | _ :: _ => d.passed

/-- The body of a coroutine, which waits with an activation, is let go on in a request that started in a
world, and gets what a demand hands over. So far no traceback was touched. -/
structure Reached (w : World L) (c : CoroutineId) (d : Demand) (k : Option Context) (a : Activation L)
    (x : Transfer) (u : World L) : Prop where
  context : k.map (·.coroutine) = some c
  waits : (w.coroutine c).Waits a
  transfer : x = d.transfer w
  orderly : u.Orderly
  intact : Intact [] w u
  attention : (u.coroutine c).attention = (w.coroutine c).attention.resumed (x.exception.map (·.kind))

/-! ## Helpers -/

variable {e : Exception} {care : Care} {t : Option Traceback} {rest cs ds : List CoroutineId} {frames : List Frame}
  {i j c : CoroutineId} {w v u : World L} {d : Demand} {k : Option Context} {a : Activation L} {x : Transfer}

/-! ### Chains -/

theorem CoroutineRecord.Waits.unique {r : CoroutineRecord L} {a a' : Activation L} (h : r.Waits a)
    (h' : r.Waits a') : a = a' := by
  obtain ⟨f, hf, -, ha⟩ := h.fiber
  obtain ⟨f', hf', -, ha'⟩ := h'.fiber
  obtain rfl := Option.some.inj (hf.symm.trans hf')
  exact Stack.suspended.inj (ha.symm.trans ha')

theorem CoroutineRecord.Waits.has (h : (w.coroutine i).Waits a) : w.Has i := by
  refine World.has_of_started ?_
  rw [h.status]
  decide

namespace AwaitChain

theorem waits (h : AwaitChain w i rest frames) : ∀ c ∈ i :: rest, ∃ a, (w.coroutine c).Waits a := by
  induction h with
  | innermost hwait _ _ => exact fun c hc => ⟨_, List.mem_singleton.mp hc ▸ hwait⟩
  | link hwait _ _ _ _ ih =>
    intro c hc
    rcases List.mem_cons.mp hc with rfl | hc
    · exact ⟨_, hwait⟩
    · exact ih c hc

theorem frames_ne_nil (h : AwaitChain w i rest frames) : frames ≠ [] := by
  cases h <;> exact List.cons_ne_nil _ _

/-- A link determines those that come after it. -/
theorem unique {rest' : List CoroutineId} {frames' : List Frame} (h : AwaitChain w i rest frames)
    (h' : AwaitChain w i rest' frames') : rest = rest' := by
  induction h generalizing rest' frames' with
  | innermost hwait _ hdelivery =>
    cases h' with
    | innermost _ _ _ => rfl
    | link hwait' _ hdelegate _ _ =>
      rw [hwait.unique hwait', hdelegate] at hdelivery
      exact absurd hdelivery Waiting.noConfusion
  | link hwait _ hdelegate hdriven _ ih =>
    cases h' with
    | innermost hwait' _ hdelivery =>
      rw [hwait.unique hwait', hdelivery] at hdelegate
      exact absurd hdelegate Waiting.noConfusion
    | link hwait' _ hdelegate' hdriven' htail =>
      rw [hwait.unique hwait', hdelegate'] at hdelegate
      obtain rfl := Waiting.delegate.inj hdelegate
      obtain rfl := Option.some.inj (hdriven.symm.trans hdriven')
      rw [ih htail]

/-- From a link on, a chain is a chain. -/
theorem from_link (h : AwaitChain w i rest frames) (hj : j ∈ rest) :
    ∃ later frames', AwaitChain w j later frames' ∧ later.length < rest.length := by
  induction h with
  | innermost _ _ _ => exact absurd hj List.not_mem_nil
  | link _ _ _ _ htail ih =>
    rcases List.mem_cons.mp hj with rfl | hj
    · exact ⟨_, _, htail, Nat.lt_succ_self _⟩
    · obtain ⟨later, frames', hlater, hlt⟩ := ih hj
      exact ⟨later, frames', hlater, Nat.lt_succ_of_lt hlt⟩

/-- No link occurs twice. -/
theorem nodup (h : AwaitChain w i rest frames) : (i :: rest).Nodup := by
  induction h with
  | innermost _ _ _ => simp
  | link hwait hframe hdelegate hdriven htail ih =>
    refine List.nodup_cons.mpr ⟨fun hi => ?_, ih⟩
    have hall := AwaitChain.link hwait hframe hdelegate hdriven htail
    obtain ⟨later, frames', hlater, hlt⟩ := hall.from_link hi
    rw [hall.unique hlater] at hlt
    exact absurd hlt (Nat.lt_irrefl _)

/-- A chain in a world in which its links and the wrappers are as they were. -/
theorem congr (h : AwaitChain w i rest frames) (hu : Intact (i :: rest) w u) : AwaitChain u i rest frames := by
  induction h with
  | innermost hwait hframe hdelivery =>
    have hi := hu.same _ List.mem_cons_self
    exact .innermost (hi ▸ hwait) (hi ▸ hframe) hdelivery
  | link hwait hframe hdelegate hdriven _ ih =>
    have hi := hu.same _ List.mem_cons_self
    exact .link (hi ▸ hwait) (hi ▸ hframe) hdelegate (hu.driven.trans hdriven)
      (ih (hu.mono (List.subset_cons_self _ _)))

end AwaitChain

/-! ### What is passed on -/

theorem Demand.passed_passed (d : Demand) : d.passed.passed = d.passed := by
  cases d with
  | send v => rfl
  | close => rfl
  | throw e =>
    by_cases h : e.cls.isSubclassOf .generatorExit = true
    · simp only [Demand.passed, if_pos h]
    · simp only [Demand.passed, if_neg h]

theorem Demand.passed_atEnd (d : Demand) (rest : List CoroutineId) : d.passed.atEnd rest = d.passed := by
  cases rest with
  | nil => rfl
  | cons j rest => exact d.passed_passed

/-- What is reached from a world in which the links are as they were is reached from before. -/
theorem Reached.of_intact (h : Reached u c d k a x v) (hu : Intact cs w u) (hc : c ∈ cs) :
    Reached w c d k a x v where
  context := h.context
  waits := hu.same c hc ▸ h.waits
  transfer := h.transfer.trans (hu.transfer d)
  orderly := h.orderly
  intact := (hu.mono (List.nil_subset cs)).trans h.intact
  attention := hu.same c hc ▸ h.attention

/-- Raising an instance with the traceback that it has touches nothing. -/
theorem instantiate_intact (hu : u.Orderly) (e : Exception) (cs : List CoroutineId) :
    ∃ v, (PendingException.mk e.cls (some e) (u.exception e).traceback).instantiate u = (.ok e, v) ∧
      v.Orderly ∧ Intact cs u v := by
  obtain ⟨v, hv, hsame⟩ := instantiate_same e u
  have hsure := instantiate_sure (L := L) ⟨e.cls, some e, (u.exception e).traceback⟩
  refine ⟨v, hv, ?_⟩
  rw [show v = _ from (congrArg Prod.snd hv).symm] at hsame ⊢
  refine ⟨hsure.orderly hu, .of_sure hsure ?_ fun y => ?_⟩
  · unfold PendingException.instantiate
    by_cases h : (u.exception e).traceback.isSome <;> simp only [h] <;> rfl
  · have htraceback := congrArg ExceptionRecord.traceback (hsame.content y)
    exact htraceback

/-- A new instance without a traceback touches nothing. -/
theorem makeException_intact (hu : u.Orderly) (cls : ExceptionClass) (cs : List CoroutineId) :
    ∃ e v, makeException cls [] u = (.ok e, v) ∧ e.cls = cls ∧ v.Orderly ∧ Intact cs u v := by
  have hsure := makeException_sure (L := L) cls []
  refine ⟨_, _, rfl, rfl, hsure.orderly hu, .of_sure hsure rfl fun y => ?_⟩
  show ((u.exceptions.push _).get y.index).traceback = _
  by_cases hy : y.index = u.exceptions.size
  · rw [World.exception, hy, Table.get_push_self, Table.get_of_size_le _ (Nat.le_refl _)]
    rfl
  · rw [Table.get_push_ne _ _ hy]
    rfl

/-- A body gets what a demand hands over, and nothing else is touched. -/
theorem deliver_intact {E : Engine L} (hempty : ∀ w, E.release .none w = (.ok (), w)) (hu : u.Orderly)
    (d : Demand) (cs : List CoroutineId) :
    Meets ((d.transfer u).deliver E) u
      ⟨fun reply v => (Demand.ofReply reply).passed = d.passed ∧ v.Orderly ∧ Intact cs u v, fun _ => False,
        fun _ => False⟩ := by
  cases d with
  | send y => exact .pure ⟨rfl, hu, .refl cs u⟩
  | throw e =>
    obtain ⟨v, hv, hintact⟩ := instantiate_intact hu e cs
    exact .then_eq hv (.then_eq (Effect.onPanic_ok (hempty v)) (.pure ⟨rfl, hintact⟩))
  | close =>
    obtain ⟨e, v, hv, he, hintact⟩ := makeException_intact hu .generatorExit cs
    refine .then_eq (a := e) (v := v) ?_ (.then_eq (Effect.onPanic_ok (hempty v)) (.pure ⟨?_, hintact⟩))
    · exact (Effect.bind_ok hv _).trans rfl
    · have hself : (ExceptionClass.isSubclassOf .generatorExit .generatorExit) = true := by decide
      simp only [Demand.ofReply, Demand.passed, he, if_pos hself]

section

variable {E : Engine L} {inner : List Frame} {ok : Prop} {S : World L → Prop}

/-- The end of a delegation leaves the exception alone. -/
theorem Escorting.endDelegation (hE : Escorting e care frames E) (k : Option Context) (a : Activation L)
    (d : Delegation) (e' : Exception) : (tracing L e care frames).Kept (endDelegation E k a d (.error e')) := by
  refine .bind (hE.owning _ ?_) fun _ => .bind (hE.owning _ (hE.kept _)) fun _ =>
    .bind (hE.owning _ (hE.kept _)) fun _ => .pure _
  cases k with
  | none => exact .pure _
  | some k =>
    refine .bind (tracing_ok fun w hw => ⟨_, w, rfl, hw, .refl e care frames w⟩) fun alive => ?_
    cases alive with
    | false => exact .pure _
    | true => exact .bind (tracing_update fun _ h => h) fun _ => hE.releaseAll _

/-- A link hands on what is delivered to it. The next link answers with the exception, which is raised in the
body of this one. -/
theorem passOn_crosses (hE : Escorting e care inner E) (hplain : e.cls.isSubclassOf .stopIteration = false)
    (hcut : ok → ∀ u, S u) (hu : u.Orderly) (k : Option Context) (a : Activation L) {d : Delegation}
    (hdriven : u.driven? d.delegate = some j) (dm : Demand)
    (request : ∀ v, v.Orderly → Intact ds u v → Meets (dm.passed.request E j) v (.crossing ok S fun reply z =>
      reply = .error e ∧ Crossed v e care inner t cs z)) :
    Meets (passOn E k a d (dm.transfer u)) u (.crossing ok S fun _ z => Crossed u e care inner t cs z) := by
  have ends {v z : World L} (hok : ok) (hg : Grown u v) (hz : Crossed v e care inner t cs z) :
      Meets (endDelegation E k a d (.error e)) z (.crossing ok S fun _ z' => Crossed u e care inner t cs z') :=
    (hE.endDelegation k a d e z hz.orderly).mono
      (fun _ _ h => ⟨hok, (hz.untouched h (List.Subset.refl _)).after hg⟩) (fun _ h => h) fun u _ => hcut hok u
  refine .then_gets ?_
  rw [hdriven]
  refine .bind (.onPanic_idle (fun _ h => h) ?_)
  refine (deliver_intact hE.empty hu dm ds).mono ?_ (fun _ h => h.elim) fun _ h => h.elim
  rintro reply v ⟨hreply, ho, hintact⟩
  have hrequest := request v ho hintact
  rw [← hreply] at hrequest
  cases reply with
  | ok y =>
    refine .bind (.onPanic_idle (fun _ h => h) (hrequest.mono ?_ (fun _ h => h) fun _ h => h))
    rintro _ z ⟨hok, rfl, hz⟩
    simp only [afterDelegate, hplain]
    exact ends hok hintact.grown hz
  | error e' =>
    by_cases hcancel : e'.cls.isSubclassOf .generatorExit = true
    · -- a cancellation signal closes the next link, and is given up for what that raises
      simp only [Demand.ofReply, Demand.passed, if_pos hcancel] at hrequest
      simp only [if_pos hcancel]
      refine .bind (.onPanic_idle (fun _ h => h) (hrequest.mono ?_ (fun _ h => h) fun _ h => h))
      rintro _ z ⟨hok, rfl, hz⟩
      exact hz.then_kept (hE.owning _ (hE.kept _)) (List.Subset.refl _) (hcut hok) fun _ z' hz' =>
        ends hok hintact.grown hz'
    · simp only [Demand.ofReply, Demand.passed, if_neg hcancel] at hrequest
      simp only [if_neg hcancel]
      refine .bind (.onPanic_idle (fun _ h => h) (hrequest.mono ?_ (fun _ h => h) fun _ h => h))
      rintro _ z ⟨hok, rfl, hz⟩
      simp only [afterDelegate, hplain]
      exact ends hok hintact.grown hz

/-! ### The run of a chain -/

/-- The body of a link hands a delivery on, and goes on when it is answered. -/
theorem escort_run_link (care : Care) (last : BodyRun L) (n : Nat) (f : Frame) (hinner : inner ≠ []) {g : Delegation}
    (hdelegate : a.waiting = .delegate g) (k : Option Context) (x : Transfer) :
    (Engine.escort e care last (n + 1) (f :: inner)).run k a x = (do
      let p ← passOn (.escort e care last n inner) k { a with waiting := .start } g x
      (proceedFrom (.ofDepth L n) k n p).only fun w exit u => exit.raisesOnly e && spares e care inner w u) := by
  obtain ⟨f', inner, rfl⟩ := List.exists_cons_of_ne_nil hinner
  simp only [Engine.escort, List.tail_cons, hdelegate]

/-- Where the body of a link lets the exception pass, and leaves it alone, that was left by the next link. -/
theorem Crossed.then_body (h : Crossed w e care inner t cs v) (k : Option Context) (n : Nat) (p : Progress L) :
    Meets ((proceedFrom (.ofDepth L n) k n p).only fun w exit u => exit.raisesOnly e && spares e care inner w u) v
      ⟨fun exit z => exit = .completed (.error e) ∧ Crossed w e care inner t cs z, fun _ => False, fun _ => True⟩ := by
  have hE := heedful_ofDepth (L := L)
  have hgood (exit : Exit L) (z : World L) (hz : (exit.raisesOnly e && spares e care inner v z) = true) :
      exit = .completed (.error e) ∧ spares e care inner v z = true :=
    (Bool.and_eq_true_iff.mp hz).imp_left Exit.eq_of_raisesOnly
  refine (untouched_of_kept h.orderly (onward_universal.client (hE ⟨0⟩ n).toUpheld (Client.proceedFrom n p))
    (fun c => (hE c n).client (Client.proceedFrom n p)) hgood).mono ?_ (fun _ h => h) fun _ h => h
  exact fun exit z hz => ⟨hz.1, h.untouched hz.2 (List.Subset.refl _)⟩

/-- An exception that the body of the last link raises comes out of the first link, whatever else that body
does. The frames of the links are noted on the way, and the links are finished. -/
theorem AwaitChain.surfaces {last : BodyRun L} (hplain : e.cls.isSubclassOf .stopIteration = false)
    (hordinary : e.cls.isSubclassOf .generatorExit = false) (hcut : ok → ∀ u, S u)
    (h : AwaitChain w i rest frames) (hw : w.Orderly) (hp : ∀ c ∈ i :: rest, (w.coroutine c).pending = none)
    (d : Demand) (n : Nat) (hdepth : rest.length < n ∨ ∀ u, S u)
    (hlast : ∀ m k a x u, Reached w (rest.getLastD i) (d.atEnd rest) k a x u →
      Meets (last m k a x) u (.crossing ok S fun exit v =>
        exit = .completed (.error e) ∧ Crossed u e care [] t [] v)) :
    Meets (d.request (.escort e care last n frames) i) w (.crossing ok S fun reply v =>
      reply = .error e ∧ Crossed w e care frames t (i :: rest) v) := by
  have ready {i : CoroutineId} {rest : List CoroutineId} {w : World L} {f : Frame} {a : Activation L}
      (hw : w.Orderly) (hp : ∀ c ∈ i :: rest, (w.coroutine c).pending = none) (hwait : (w.coroutine i).Waits a)
      (hframe : (w.coroutine i).frame = some f) : w.Ready i f a :=
    ⟨hwait.has, hw, hwait, hframe, hp i List.mem_cons_self⟩
  induction rest generalizing w i frames d n with
  | nil =>
    cases h with
    | @innermost _ f a _ hwait hframe _ =>
      refine request_surfaces (escorting_escort care last n _) (ready hw hp hwait hframe) (List.not_mem_nil) hplain hcut
        hordinary d fun u r hu ha => ?_
      cases n with
      | zero => exact ⟨(hdepth.resolve_left (Nat.not_lt_zero _)) u⟩
      | succ n =>
        have hreached : Reached w i d (some ⟨i, (w.coroutine i).code, f⟩) a (d.transfer w) u :=
          ⟨rfl, hwait, rfl, hu.orderly, hu.toIntact, hu.record.symm ▸ ha⟩
        refine (hlast n _ a _ u hreached).mono ?_ (fun _ h => h) fun _ h => h
        exact fun exit v hv => ⟨hv.1, hv.2.1, hv.2.2.after hu.grown⟩
  | cons j rest ih =>
    have hnodup := h.nodup
    cases h with
    | @link _ _ _ f inner a g hwait hframe hdelegate hdriven htail =>
      refine request_surfaces (escorting_escort care last n _) (ready hw hp hwait hframe) (List.nodup_cons.mp hnodup).1
        hplain hcut hordinary d fun u r hu ha => ?_
      cases n with
      | zero => exact ⟨(hdepth.resolve_left (Nat.not_lt_zero _)) u⟩
      | succ n =>
        have hwu := hu.toIntact
        have hpass : Meets (passOn (.escort e care last n inner) (some ⟨i, (w.coroutine i).code, f⟩)
            { a with waiting := .start } g (d.transfer u)) u
            (.crossing ok S fun _ z => Crossed u e care inner t (j :: rest) z) := by
          refine passOn_crosses (escorting_escort care last n inner) hplain hcut hu.orderly _ _
            (hwu.driven.trans hdriven) d fun v hv (hintact : Intact (j :: rest) u v) => ?_
          -- the rest of the chain is as it was
          have hwv := hwu.trans hintact
          refine ih (htail.congr hwv) hv (fun c hc => ?_) d.passed n
            (hdepth.imp_left Nat.lt_of_succ_lt_succ) fun m k a x z hz => hlast m k a x z ?_
          · rw [hwv.same c hc]
            exact hp c (List.mem_cons_of_mem _ hc)
          · rw [d.passed_atEnd] at hz
            rw [List.getLastD_cons]
            exact hz.of_intact hwv List.getLastD_mem_cons
        rw [escort_run_link care last n f htail.frames_ne_nil hdelegate, ← hwu.transfer d]
        refine .bind (hpass.mono ?_ (fun _ h => h) fun _ h => h)
        rintro p v ⟨hok, hv⟩
        refine (hv.then_body _ n p).mono ?_ (fun _ h => h) fun u _ => hcut hok u
        exact fun exit z hz => ⟨hok, hz.1, hz.2.after hu.grown⟩

end

end CoroutineEngine
