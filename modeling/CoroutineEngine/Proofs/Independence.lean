import CoroutineEngine.Proofs.Isolation
import CoroutineEngine.Proofs.Likeness.Bodies
import CoroutineEngine.Proofs.Likeness.Counterparts
import CoroutineEngine.Proofs.Likeness.Scripts

/-!
# Coroutines that have nothing in common

Two coroutines belong to two estates: sets of objects that refer to nothing outside, and have no object in common
that can change. Their bodies keep to themselves. Requests on both of them, in any order, are compared with two
runs of which each makes the requests on one of them only: the two runs mirror their part of the joint one, after
every request. What one side makes shifts the numbers of what the other one makes, and is not noticed otherwise.

Results:
* `Joint.step`: a request on one side leaves the other side as it was.
* `Joint.run`: any order of requests, by induction.
* `interleaved_as_alone`: results and states are those that each side has alone, in whatever order requests are made.
-/

namespace CoroutineEngine

variable {L : Language} {P Q : Privacy L}

/-! ## Definitions -/

/-- A request, to whichever coroutine it is made. -/
inductive Prompt
  | send (v : Value)
  | throw (kind value traceback : Value)
  | throwException (e : Exception)
  | close

namespace Prompt

/-- The values that come with it. -/
def operands : Prompt → List Value
  | send v => [v]
  | throw kind value traceback => [kind, value, traceback]
  | throwException e => [.exception e]
  | close => []

/-- Makes the request. -/
def put (E : Engine L) (c : CoroutineId) : Prompt → Effect L Reply
  | send v => CoroutineEngine.send E c v
  | throw kind value traceback => CoroutineEngine.throw E c kind value traceback
  | throwException e => CoroutineEngine.throwException E c e
  | close => CoroutineEngine.close E c

end Prompt

/-- Requests on one coroutine. -/
def serve (E : Engine L) (c : CoroutineId) : List Prompt → Effect L (List Reply)
  | [] => pure []
  | d :: ds => do
    let reply ← d.put E c
    let replies ← serve E c ds
    return reply :: replies

/-- Requests on two coroutines, in some order; a reply is on the side of its request. -/
def interleave (E : Engine L) (a b : CoroutineId) : List (Prompt ⊕ Prompt) → Effect L (List (Reply ⊕ Reply))
  | [] => pure []
  | .inl d :: ds => do
    let reply ← d.put E a
    let replies ← interleave E a b ds
    return .inl reply :: replies
  | .inr d :: ds => do
    let reply ← d.put E b
    let replies ← interleave E a b ds
    return .inr reply :: replies

/-- What is on the left side, in its order. -/
def lefts {α : Type} (s : List (α ⊕ α)) : List α := s.filterMap Sum.getLeft?

/-- What is on the right side, in its order. -/
def rights {α : Type} (s : List (α ⊕ α)) : List α := s.filterMap Sum.getRight?

/-- Which objects belong to somebody. -/
abbrev Estate := Kind → Nat → Prop

namespace Estate

variable (A : Estate)

/-- What belongs to the estate stands for itself. -/
def pairing : Pairing where
  pairs k i j := j = i ∧ A k i
  functional := by
    rintro k i j j' ⟨rfl, -⟩ ⟨rfl, -⟩
    rfl
  injective := by
    rintro k i i' j ⟨rfl, -⟩ ⟨rfl, -⟩
    rfl

/-- The value refers to nothing outside of the estate. -/
def Covers (v : Value) : Prop := v.Like A.pairing v

/-- What two worlds have in common that were one before: the estate. -/
def likeness (P : Privacy L) (w : World L) : Likeness P where
  toPairing := A.pairing
  spared _ _ _ := False
  climate := w.climate
  slack := 0

/-- All that belongs to the estate is there, refers to nothing outside, and runs private programs only. -/
structure IsClosed (P : Privacy L) (w : World L) : Prop where
  exist : ∀ {k i}, A k i → i < w.extent k
  records : ∀ {k i}, A k i → k.LikeRecord (A.likeness P w) (w.record k i) (w.record k i)

end Estate

/-- No error is set, and no exception is handled. -/
def Ambient.IsCalm (a : Ambient L) : Prop := a.error = none ∧ a.handled = none

/-- Two closed estates with no object in common that can change, where bodies use nothing but what they have. There is
no hook, and nobody uses the ambient state. -/
structure Apart (A B : Estate) (P Q : Privacy L) (w : World L) : Prop where
  left : A.IsClosed P w
  right : B.IsClosed Q w
  reach : P.reach = .own ∧ Q.reach = .own
  disjoint : ∀ {k i}, k.Changes → A k i → ¬ B k i
  hook : w.ambient.hook = none
  borrowed : w.ambient.borrowed = false

/-- The world as a driver finds it that has set and handles nothing, with some steps left on the clock. -/
def World.settled (w : World L) (clock : Nat) : World L := { w.withErrors none none with clock }

namespace Likeness

/-- Whatever else there is and can change is spared. -/
def sparing (ρ : Likeness P) (w : World L) : Likeness P :=
  { ρ with spared := fun k j r => j < w.extent k ∧ w.record k j = r ∧ (k.Changes → ∀ i, ¬ ρ.pairs k i j) }

/-- Nothing is spared, and the clock of the other world has so many steps more. -/
def resting (ρ : Likeness P) (slack : Nat) : Likeness P := { ρ with spared := fun _ _ _ => False, slack }

end Likeness

/-- Requests on a coroutine of the estate, with operands of the estate, and what comes of them if no others are made:
the replies, and the world in the end. -/
structure Estate.Serves (A : Estate) (w : World L) (c : CoroutineId) (ds : List Prompt) (depth clock : Nat)
    (result : List Reply × World L) : Prop where
  coroutine : A.Covers (.coroutine c)
  operands : ∀ d ∈ ds, ∀ v ∈ d.operands, A.Covers v
  alone : serve (.ofDepth L depth) c ds (w.settled clock) = (.ok result.1, result.2)

/-- Two runs with requests on a coroutine of the estate have the same replies, and all of the estate looks the same
afterwards, with what was made: the numbers of the latter may differ. -/
structure Estate.Agree (A : Estate) (P : Privacy L) (w : World L) (c : CoroutineId)
    (one other : List Reply × World L) : Prop where
  alike : ∃ ρ : Likeness P, (A.likeness P w).Extends ρ ∧ one.2.Resembles ρ other.2 ∧ Like ρ one.1 other.1
  status : (other.2.coroutine c).status = (one.2.coroutine c).status

/-- Two worlds mirror their parts of a third one, in which the parts do not overlap. There nothing is set and
handled, and the clock has the steps of both. -/
structure Joint (ρ : Likeness P) (σ : Likeness Q) (u v w : World L) : Prop where
  reach : P.reach = .own ∧ Q.reach = .own
  left : u.Mirrors ρ w
  right : v.Mirrors σ w
  disjoint : ∀ {k i i' j}, k.Changes → ρ.pairs k i j → ¬ σ.pairs k i' j
  calm : w.ambient.IsCalm
  clock : w.clock = u.clock + v.clock

/-! ## Requests -/

section

variable {α : Type} (x : α) (s t : List (α ⊕ α))

@[simp] theorem lefts_append : lefts (s ++ t) = lefts s ++ lefts t := List.filterMap_append

@[simp] theorem rights_append : rights (s ++ t) = rights s ++ rights t := List.filterMap_append

@[simp] theorem lefts_inl : lefts (.inl x :: s) = x :: lefts s := rfl

@[simp] theorem lefts_inr : lefts (.inr x :: s) = lefts s := rfl

@[simp] theorem rights_inl : rights (.inl x :: s) = rights s := rfl

@[simp] theorem rights_inr : rights (.inr x :: s) = x :: rights s := rfl

end

namespace Prompt

theorem request (d : Prompt) (c : CoroutineId) : DriverRequest (L := L) c fun E => d.put E c := by
  cases d with
  | send v => exact .send v
  | throw kind value traceback => exact .throw kind value traceback
  | throwException e => exact .throwException e
  | close => exact .close

/-- A request echoes itself, if its coroutine and its operands stand for themselves. -/
theorem echoes {ρ : Likeness P} {E F : Engine L} (hE : E.IsEchoedBy P F) {c : CoroutineId} (hc : Like ρ c c) {d : Prompt}
    (hd : ∀ v ∈ d.operands, Like ρ v v) : Echoes ρ (d.put E c) (d.put F c) := by
  cases d with
  | send v => exact .send hE hc (hd v (by simp [operands]))
  | throw kind value traceback =>
    exact .throw hE hc (hd kind (by simp [operands])) (hd value (by simp [operands])) (hd traceback (by simp [operands]))
  | throwException e =>
    cases hd (.exception e) (by simp [operands]) with
    | exception he => exact .throwException hE hc he
  | close => exact .close hE hc

end Prompt

section

variable {E : Engine L} {a b c : CoroutineId} {d : Prompt} {w v u : World L} {reply : Reply}

/-- A run that gives replies has made the first request and has gone on from there. -/
theorem serve_cons_ok {ds : List Prompt} {replies : List Reply} (h : serve E c (d :: ds) w = (.ok replies, u)) :
    ∃ reply v rest, d.put E c w = (.ok reply, v) ∧ serve E c ds v = (.ok rest, u) ∧ replies = reply :: rest := by
  simp only [serve, Effect.bind_apply] at h
  rcases hput : d.put E c w with ⟨reply | _ | _, v⟩ <;> simp only [hput] at h
  · rcases hserve : serve E c ds v with ⟨rest | _ | _, x⟩ <;> simp only [hserve] at h
    · cases h
      exact ⟨reply, v, rest, rfl, hserve, rfl⟩
    · cases h
    · cases h
  · cases h
  · cases h

variable {s : List (Prompt ⊕ Prompt)} {all : List (Reply ⊕ Reply)}

theorem interleave_inl_ok (hput : d.put E a w = (.ok reply, v)) (hall : interleave E a b s v = (.ok all, u)) :
    interleave E a b (.inl d :: s) w = (.ok (.inl reply :: all), u) := by
  simp only [interleave, Effect.bind_apply, hput, hall, Effect.pure_apply]

theorem interleave_inr_ok (hput : d.put E b w = (.ok reply, v)) (hall : interleave E a b s v = (.ok all, u)) :
    interleave E a b (.inr d :: s) w = (.ok (.inr reply :: all), u) := by
  simp only [interleave, Effect.bind_apply, hput, hall, Effect.pure_apply]

end

/-! ## Steps -/

namespace Likeness

variable (ρ : Likeness P)

theorem extends_sparing (w : World L) : ρ.Extends (ρ.sparing w) := ⟨fun _ _ _ h => h⟩

theorem extends_resting (slack : Nat) : ρ.Extends (ρ.resting slack) := ⟨fun _ _ _ h => h⟩

end Likeness

namespace Ambient.Like

variable {ρ : Likeness P} {a b b' : Ambient L}

/-- Where bodies do not reach the thread, there are no hooks. -/
theorem no_hook (h : a.Like ρ b) (hP : P.reach.thread = false) : b.hook = none := by
  rcases CoroutineEngine.Like.absent_or h.hook with ⟨-, h'⟩ | ⟨_, _, -, -, hh⟩
  · exact h'
  · exact absurd (hP.symm.trans hh.reach) nofun

/-- Where bodies do not reach the thread, nobody borrows. -/
theorem not_borrowed (h : a.Like ρ b) (hP : P.reach.thread = false) : b.borrowed = false := by
  rw [h.borrowed, ← Bool.not_eq_true]
  exact fun hborrowed => absurd (hP.symm.trans (h.lender hborrowed)) nofun

/-- Another ambient state that is calm is as good. -/
theorem calm (h : a.Like ρ b) (hP : P.reach.thread = false) (hb : b.IsCalm) (hb' : b'.IsCalm) (hook : b'.hook = none)
    (borrowed : b'.borrowed = false) : a.Like ρ b' where
  error := by
    rw [hb'.1, ← hb.1]
    exact h.error
  handled := by
    rw [hb'.2, ← hb.2]
    exact h.handled
  hook := by
    have hnone := h.no_hook hP
    rw [hook, ← hnone]
    exact h.hook
  borrowed := by
    rw [borrowed, ← h.not_borrowed hP]
    exact h.borrowed
  lender := h.lender

end Ambient.Like

namespace World.Mirrors

variable {ρ : Likeness P} {u w w' : World L}

theorem sparing (hw : u.Mirrors ρ w) : u.Mirrors (ρ.sparing w) w :=
  { hw with
    records := fun h => (hw.records h).mono (ρ.extends_sparing w)
    spared := fun h => ⟨h.1, h.2.1⟩
    apart := fun hk h => h.2.2 hk _
    ambient := hw.ambient.mono (ρ.extends_sparing w)
    slots := fun h => (hw.slots h).mono (ρ.extends_sparing w)
    weaks := fun h => (hw.weaks h).mono (ρ.extends_sparing w) }

/-- A world mirrors what became of the other one, if its part there is as it was. -/
theorem rest (hP : P.reach = .own) (hw : u.Mirrors ρ w) (lasts : ∀ {k i j}, ρ.pairs k i j → w'.record k j = w.record k j)
    (extent : ∀ k, w.extent k ≤ w'.extent k) (ambient : u.ambient.Like ρ w'.ambient) (climate : w'.climate = w.climate)
    {slack : Nat} (clock : w'.clock = u.clock + slack) : u.Mirrors (ρ.resting slack) w' where
  bounds {k _ _} h := ⟨(hw.bounds h).1, Nat.lt_of_lt_of_le (hw.bounds h).2 (extent k)⟩
  records {k i j} h := by
    rw [lasts h]
    exact (hw.records h).mono (ρ.extends_resting slack)
  spared := False.elim
  apart _ h := h.elim
  fewer k := Nat.le_trans (hw.fewer k) (extent k)
  ambient := ambient.mono (ρ.extends_resting slack)
  slots h := absurd h (by simp [hP, Reach.own])
  sorted h := absurd h (by simp [hP, Reach.own])
  weaks h := absurd h (by simp [hP, Reach.own])
  thread h := absurd h (by simp [hP, Reach.own])
  climate := climate.trans hw.climate
  steady := hw.steady
  clock := clock

end World.Mirrors

/-- Nothing disappears: what was made last before is paired, or it is spared. -/
theorem World.extent_le_of_sparing {ρ κ : Likeness P} {w u' w' : World L} (hκ : (ρ.sparing w).Grows κ)
    (hw' : u'.Mirrors κ w') (k : Kind) : w.extent k ≤ w'.extent k := by
  by_contra hlt
  have hlast : w.extent k - 1 < w.extent k := by omega
  have hnew : w.extent k - 1 < w'.extent k := by
    by_cases hpaired : ∃ i, ρ.pairs k i (w.extent k - 1)
    · obtain ⟨i, hi⟩ := hpaired
      exact (hw'.bounds (hκ.pairs _ _ _ hi)).2
    · have hspared : κ.spared k (w.extent k - 1) (w.record k (w.extent k - 1)) := by
        rw [hκ.spared]
        exact ⟨hlast, rfl, fun _ i hi => hpaired ⟨i, hi⟩⟩
      exact (hw'.spared hspared).1
  omega

namespace Joint

variable {ρ : Likeness P} {σ : Likeness Q} {u v w : World L}

theorem symm (h : Joint ρ σ u v w) : Joint σ ρ v u w :=
  ⟨h.reach.symm, h.right, h.left, fun hk hσ hρ => h.disjoint hk hρ hσ, h.calm, by rw [h.clock, Nat.add_comm]⟩

theorem threadless (h : Joint ρ σ u v w) : P.reach.thread = false := by
  rw [h.reach.1]
  rfl

theorem orderly (h : Joint ρ σ u v w) : w.Orderly :=
  ⟨h.left.ambient.not_borrowed h.threadless, fun hook hhook => by
    simp [h.left.ambient.no_hook h.threadless] at hhook⟩

/-- A request on one side has the reply that it has alone, and the other side is as it was. -/
theorem step (h : Joint ρ σ u v w) {c : CoroutineId} (hc : Like ρ c c) {d : Prompt}
    (hd : ∀ x ∈ d.operands, Like ρ x x) {n : Nat} {reply : Reply} {u' : World L}
    (hput : d.put (.ofDepth L n) c u = (.ok reply, u')) :
    ∃ ρ' σ' reply' w', d.put (.serving L n) c w = (.ok reply', w') ∧ ρ.Extends ρ' ∧ σ.Extends σ' ∧
      Joint ρ' σ' u' v w' ∧ Like ρ' reply reply' := by
  have more := ρ.extends_sparing w
  have hechoes := Prompt.echoes (Engine.ofDepth_isEchoedBy_serving h.threadless n) (hc.mono more) fun x hx => (hd x hx).mono more
  have halike := (hechoes.twins u w h.left.sparing).alike
  rw [hput] at halike
  obtain ⟨reply', w', hput', κ, hκ, hw', hreply⟩ := halike
  -- the switch puts back what the driver has set and handles: nothing
  have hside := (((impartial_serving n).courteous.driver (d.request c).composed) w h.orderly).ok hput'
  have hcalm : w'.ambient.IsCalm :=
    ⟨(congrArg DriverState.error hside.2).trans h.calm.1, (congrArg DriverState.handled hside.2).trans h.calm.2⟩
  have hambient := h.right.ambient.calm h.symm.threadless h.calm hcalm (hw'.ambient.no_hook h.threadless)
    (hw'.ambient.not_borrowed h.threadless)
  -- the other side is spared
  have hspared {k i j} (hσ : σ.pairs k i j) : κ.spared k j (w.record k j) := by
    rw [hκ.spared]
    exact ⟨(h.right.bounds hσ).2, rfl, fun hk i hρ => h.disjoint hk hρ hσ⟩
  have hextent := World.extent_le_of_sparing hκ hw'
  have hclimate : w'.climate = w.climate := by
    rw [hw'.climate, hw'.steady h.threadless, hκ.climate, h.left.climate, h.left.steady h.threadless]
    rfl
  have hclock : w'.clock = u'.clock + v.clock := by
    have hbefore := h.left.sparing.clock
    rw [h.clock] at hbefore
    rw [hw'.clock, hκ.slack]
    omega
  refine ⟨κ.resting v.clock, σ.resting u'.clock, reply', w', hput', ?_, σ.extends_resting _, ⟨h.reach, ?_, ?_, ?_, hcalm, hclock⟩,
    hreply.mono (κ.extends_resting _)⟩
  · exact more.trans (hκ.toExtends.trans (κ.extends_resting _))
  · exact hw'.rest h.reach.1 (fun _ => rfl) (fun _ => Nat.le_refl _) hw'.ambient rfl hclock
  · exact h.right.rest h.reach.2 (fun hσ => (hw'.spared (hspared hσ)).2) hextent hambient hclimate (by rw [hclock, Nat.add_comm])
  · exact fun hk hκ hσ => hw'.apart hk (hspared hσ) hκ

/-! ## Runs -/

/-- By induction on the requests: whatever their order, the replies are those that each side has alone. -/
theorem run (h : Joint ρ σ u v w) {a b : CoroutineId} (ha : Like ρ a a) (hb : Like σ b b) {n : Nat}
    {s : List (Prompt ⊕ Prompt)} (hs : ∀ d ∈ lefts s, ∀ x ∈ d.operands, Like ρ x x)
    (ht : ∀ d ∈ rights s, ∀ x ∈ d.operands, Like σ x x) {replies replies' : List Reply} {u' v' : World L}
    (hleft : serve (.ofDepth L n) a (lefts s) u = (.ok replies, u'))
    (hright : serve (.ofDepth L n) b (rights s) v = (.ok replies', v')) :
    ∃ ρ' σ' all w', interleave (.serving L n) a b s w = (.ok all, w') ∧ ρ.Extends ρ' ∧ σ.Extends σ' ∧
      Joint ρ' σ' u' v' w' ∧ Like ρ' replies (lefts all) ∧ Like σ' replies' (rights all) := by
  induction s generalizing ρ σ u v w replies replies' with
  | nil =>
    cases hleft
    cases hright
    exact ⟨ρ, σ, [], w, rfl, .refl ρ, .refl σ, h, .nil, .nil⟩
  | cons d s ih =>
    cases d with
    | inl d =>
      obtain ⟨reply, x, rest, hput, hrest, rfl⟩ := serve_cons_ok hleft
      obtain ⟨ρ₁, σ₁, reply', w₁, hput', hρ, hσ, h₁, hreply⟩ := h.step ha (hs d List.mem_cons_self) hput
      obtain ⟨ρ₂, σ₂, all, w', hall, hρ', hσ', h', hlefts, hrights⟩ := ih h₁ (ha.mono hρ) (hb.mono hσ)
        (fun d hd x hx => (hs d (List.mem_cons_of_mem _ hd) x hx).mono hρ) (fun d hd x hx => (ht d hd x hx).mono hσ)
        hrest hright
      exact ⟨ρ₂, σ₂, .inl reply' :: all, w', interleave_inl_ok hput' hall, hρ.trans hρ', hσ.trans hσ', h',
        (hreply.mono hρ').cons hlefts, hrights⟩
    | inr d =>
      obtain ⟨reply, x, rest, hput, hrest, rfl⟩ := serve_cons_ok hright
      obtain ⟨σ₁, ρ₁, reply', w₁, hput', hσ, hρ, h₁, hreply⟩ := h.symm.step hb (ht d List.mem_cons_self) hput
      obtain ⟨ρ₂, σ₂, all, w', hall, hρ', hσ', h', hlefts, hrights⟩ := ih h₁.symm (ha.mono hρ) (hb.mono hσ)
        (fun d hd x hx => (hs d hd x hx).mono hρ) (fun d hd x hx => (ht d (List.mem_cons_of_mem _ hd) x hx).mono hσ)
        hleft hrest
      exact ⟨ρ₂, σ₂, .inr reply' :: all, w', interleave_inr_ok hput' hall, hρ.trans hρ', hσ.trans hσ', h', hlefts,
        (hreply.mono hσ').cons hrights⟩

end Joint

/-! ## Two drivers -/

/-- In the beginning each side is alone with a copy of the world. -/
theorem Estate.IsClosed.mirrors {A : Estate} {w : World L} (hP : P.reach = .own) (hA : A.IsClosed P w)
    (hook : w.ambient.hook = none) (borrowed : w.ambient.borrowed = false) (p q : Nat) :
    (w.settled p).Mirrors ((A.likeness P w).resting q) (w.settled (p + q)) where
  bounds := by
    rintro k i j ⟨rfl, hi⟩
    have hlt := hA.exist hi
    cases k <;> exact ⟨hlt, hlt⟩
  records := by
    rintro k i j ⟨rfl, hi⟩
    have hrecord := (hA.records hi).mono ((A.likeness P w).extends_resting q)
    cases k <;> exact hrecord
  spared := False.elim
  apart _ h := h.elim
  fewer k := by cases k <;> exact Nat.le_refl _
  ambient :=
    { error := .none
      handled := .none
      hook := by
        show Like _ w.ambient.hook w.ambient.hook
        rw [hook]
        exact .none
      borrowed := rfl
      lender := fun h => absurd (borrowed.symm.trans h) nofun }
  slots h := absurd h (by simp [hP, Reach.own])
  sorted h := absurd h (by simp [hP, Reach.own])
  weaks h := absurd h (by simp [hP, Reach.own])
  thread h := absurd h (by simp [hP, Reach.own])
  climate := rfl
  steady _ := rfl
  clock := rfl

theorem Apart.joint {A B : Estate} {w : World L} (h : Apart A B P Q w) (p q : Nat) :
    Joint ((A.likeness P w).resting q) ((B.likeness Q w).resting p) (w.settled p) (w.settled q)
      (w.settled (p + q)) where
  reach := h.reach
  left := h.left.mirrors h.reach.1 h.hook h.borrowed p q
  right := by
    rw [Nat.add_comm]
    exact h.right.mirrors h.reach.2 h.hook h.borrowed q p
  disjoint := by
    rintro k i i' j hk ⟨rfl, hi⟩ ⟨rfl, hi'⟩
    exact h.disjoint hk hi hi'
  calm := ⟨rfl, rfl⟩
  clock := rfl

theorem interleave_acts (a b : CoroutineId) (s : List (Prompt ⊕ Prompt)) :
    Composed (L := L) ActAtom fun E => interleave E a b s := by
  have gives (replies : List (Reply ⊕ Reply)) : Composed (L := L) ActAtom fun _ => pure replies :=
    .atom (.discreet (Still.pure replies).discreet)
  induction s with
  | nil => exact gives []
  | cons d s ih =>
    cases d with
    | inl d => exact .bind (.atom (.request (d.request a))) fun _ => .bind ih fun _ => gives _
    | inr d => exact .bind (.atom (.request (d.request b))) fun _ => .bind ih fun _ => gives _

/-- What a driver has set and handles, it finds again whatever it does. -/
theorem Courteous.acts {α : Type} {s : Prop} {steady : Bool} {E : Engine L} (hE : Courteous s steady E)
    {x : Procedure L α} (hx : Composed ActAtom x) : (restoring True s (Ambient.side steady)).Kept (x E) := by
  refine Composed.kept (fun hx => ?_) hx
  cases hx with
  | discreet hx => exact hx.aloof.kept
  | release v => exact hE.released v
  | request hx => exact hE.driver hx.composed

theorem World.record_withErrors (w : World L) (error : Option PendingException) (handled : Option Exception) :
    (w.withErrors error handled).record = w.record := by
  funext k i
  cases k <;> rfl

/-- A driver that has set an error and handles an exception has the same replies as one that has not. -/
theorem interleave_driven {n : Nat} {a b : CoroutineId} {s : List (Prompt ⊕ Prompt)} {w w' : World L} (hw : w.Orderly)
    {all : List (Reply ⊕ Reply)} (h : interleave (.serving L n) a b s w = (.ok all, w'))
    (error : Option PendingException) (handled : Option Exception) :
    interleave (.ofDepth L n) a b s (w.withErrors error handled) = (.ok all, w'.withErrors error handled) := by
  have hacts := interleave_acts (L := L) a b s
  have hbeside : Beside False False w (w.withErrors error handled) := ⟨hw, rfl, False.elim, False.elim⟩
  have halike := ((impartial_serving n).acts hacts w _ hbeside).alike
  rw [h] at halike
  obtain ⟨_, x, hx, rfl, hdiffer⟩ := halike
  have hside := ((impartial_serving n).courteous.acts hacts _ hbeside.other).ok hx
  have herror : x.ambient.error = error := congrArg DriverState.error hside.2
  have hhandled : x.ambient.handled = handled := congrArg DriverState.handled hside.2
  rw [acts_extends (ofDepth_extends_serving n) hacts _ (by rw [hx]; exact nofun), hx, hdiffer.differ, herror, hhandled]

/-! ## Independence -/

namespace Estate

variable {A : Estate} {w : World L} {ρ σ : Likeness P}

theorem extends_across (hρ : (A.likeness P w).Extends ρ) (hσ : (A.likeness P w).Extends σ) :
    (A.likeness P w).Extends (ρ.across σ) where
  pairs k i j h := ⟨i, hρ.pairs k i i ⟨rfl, h.2⟩, hσ.pairs k i j h⟩

theorem Covers.like {v : Value} (hv : A.Covers v) : Like (A.likeness P w) v v := hv

theorem Covers.like_coroutine {c : CoroutineId} (hc : A.Covers (.coroutine c)) : Like (A.likeness P w) c c := by
  cases hc with
  | coroutine hc => exact hc

variable {c : CoroutineId} {replies replies₁ replies₂ : List Reply} {u x y : World L}

/-- A joint run agrees with the one that a side makes alone. -/
theorem Agree.of_mirrors (hc : A.Covers (.coroutine c)) (hρ : (A.likeness P w).Extends ρ) (hx : u.Mirrors ρ x)
    (h : Like ρ replies replies₁) : A.Agree P w c (replies, u) (replies₁, x) :=
  ⟨⟨ρ, hρ, hx.records, h⟩, (hx.coroutine (hc.like_coroutine.mono hρ)).status⟩

/-- So do two joint runs with each other. -/
theorem Agree.of_both (hc : A.Covers (.coroutine c)) (hρ : (A.likeness P w).Extends ρ)
    (hσ : (A.likeness P w).Extends σ) (hx : u.Mirrors ρ x) (hy : u.Mirrors σ y) (h₁ : Like ρ replies replies₁)
    (h₂ : Like σ replies replies₂) : A.Agree P w c (replies₁, x) (replies₂, y) := by
  refine ⟨⟨ρ.across σ, extends_across hρ hσ, hx.across hy, h₁.across h₂⟩, ?_⟩
  have hstatus := (hx.coroutine (hc.like_coroutine.mono hρ)).status
  have hstatus' := (hy.coroutine (hc.like_coroutine.mono hσ)).status
  exact hstatus'.trans hstatus.symm

/-- What else is different does not matter. -/
theorem Agree.congr {x' y' : World L} (h : A.Agree P w c (replies₁, x) (replies₂, y)) (hx : x'.record = x.record)
    (hy : y'.record = y.record) : A.Agree P w c (replies₁, x') (replies₂, y') := by
  obtain ⟨⟨ρ, hρ, hxy, hreplies⟩, hstatus⟩ := h
  refine ⟨⟨ρ, hρ, ?_, hreplies⟩, ?_⟩
  · intro k i j hij
    show k.LikeRecord ρ (x'.record k i) (y'.record k j)
    rw [hx, hy]
    exact hxy hij
  · show (y'.record .coroutine c.index).status = (x'.record .coroutine c.index).status
    rw [hx, hy]
    exact hstatus

end Estate

section

variable {A B : Estate} {w : World L} {a b : CoroutineId} {ds es : List Prompt} {n p q : Nat}
  {left right : List Reply × World L}

/-- Each order of the requests gives a joint run that mirrors both of the others, whatever the driver has set and
handles. -/
theorem Apart.run (hw : Apart A B P Q w) (hA : A.Serves w a ds n p left) (hB : B.Serves w b es n q right)
    (error : Option PendingException) (handled : Option Exception) {s : List (Prompt ⊕ Prompt)} (hs : lefts s = ds)
    (ht : rights s = es) :
    ∃ ρ σ all x,
      interleave (.ofDepth L n) a b s ((w.settled (p + q)).withErrors error handled) =
        (.ok all, x.withErrors error handled) ∧
      (A.likeness P w).Extends ρ ∧ (B.likeness Q w).Extends σ ∧ Joint ρ σ left.2 right.2 x ∧
      Like ρ left.1 (lefts all) ∧ Like σ right.1 (rights all) := by
  subst hs ht
  have hjoint := hw.joint p q
  have restA := (A.likeness P w).extends_resting q
  have restB := (B.likeness Q w).extends_resting p
  obtain ⟨ρ, σ, all, x, hall, hρ, hσ, hx, hlefts, hrights⟩ := hjoint.run (hA.coroutine.like_coroutine.mono restA)
    (hB.coroutine.like_coroutine.mono restB) (fun d hd v hv => (hA.operands d hd v hv).like.mono restA)
    (fun d hd v hv => (hB.operands d hd v hv).like.mono restB) hA.alone hB.alone
  exact ⟨ρ, σ, all, x, interleave_driven hjoint.orderly hall error handled, restA.trans hρ, restB.trans hσ, hx,
    hlefts, hrights⟩

/-- Two coroutines of estates that have nothing in common do not interfere. If the requests on each of them come to an
end alone, they do in every order of them all, and on both sides the replies and the states are those that the side has
alone, whatever error the driver has set and whatever exception it handles. Two requests on different sides, one right
after the other, can be exchanged. -/
theorem interleaved_as_alone (hw : Apart A B P Q w) (hA : A.Serves w a ds n p left) (hB : B.Serves w b es n q right)
    (error : Option PendingException) (handled : Option Exception) :
    let joint s := interleave (.ofDepth L n) a b s ((w.settled (p + q)).withErrors error handled)
    (∀ s, lefts s = ds → rights s = es →
      ∃ all x, joint s = (.ok all, x) ∧ A.Agree P w a left (lefts all, x) ∧ B.Agree Q w b right (rights all, x)) ∧
    ∀ s d e t, lefts (s ++ .inl d :: .inr e :: t) = ds → rights (s ++ .inl d :: .inr e :: t) = es →
      ∃ all x all' x', joint (s ++ .inl d :: .inr e :: t) = (.ok all, x) ∧
        joint (s ++ .inr e :: .inl d :: t) = (.ok all', x') ∧
        A.Agree P w a (lefts all, x) (lefts all', x') ∧ B.Agree Q w b (rights all, x) (rights all', x') := by
  constructor
  · intro s hs ht
    obtain ⟨ρ, σ, all, x, hall, hρ, hσ, hx, hlefts, hrights⟩ := hw.run hA hB error handled hs ht
    exact ⟨all, _, hall, (Estate.Agree.of_mirrors hA.coroutine hρ hx.left hlefts).congr rfl (x.record_withErrors _ _),
      (Estate.Agree.of_mirrors hB.coroutine hσ hx.right hrights).congr rfl (x.record_withErrors _ _)⟩
  · intro s d e t hs ht
    have hs' : lefts (s ++ .inr e :: .inl d :: t) = ds := by simpa using hs
    have ht' : rights (s ++ .inr e :: .inl d :: t) = es := by simpa using ht
    obtain ⟨ρ₁, σ₁, all, x, hall, hρ₁, hσ₁, hx, hlefts, hrights⟩ := hw.run hA hB error handled hs ht
    obtain ⟨ρ₂, σ₂, all', y, hall', hρ₂, hσ₂, hy, hlefts', hrights'⟩ := hw.run hA hB error handled hs' ht'
    have hleft := Estate.Agree.of_both hA.coroutine hρ₁ hρ₂ hx.left hy.left hlefts hlefts'
    have hright := Estate.Agree.of_both hB.coroutine hσ₁ hσ₂ hx.right hy.right hrights hrights'
    exact ⟨all, _, all', _, hall, hall', hleft.congr (x.record_withErrors _ _) (y.record_withErrors _ _),
      hright.congr (x.record_withErrors _ _) (y.record_withErrors _ _)⟩

end

section

open Script (Block Clause Statement)

/-- A body that leaves an error behind. -/
def forgetful : Block :=
  [.perform (.setError (.exception (.builtinClass "ValueError") [])) none, .yield (.str "inner") (some "x"),
    .result (.localVar "x")]

/-- A body that awaits a forgetful one, and handles an exception. -/
def patient : Block :=
  [.perform (.makeCoroutine (coroutineOf "forgetful" forgetful)) (some "child"), .await (.localVar "child") (some "x"),
    .attempt [.yield (.localVar "x") none, .raise (.builtinClass "TypeError") .none]
      [.mk none none true [.yield .handled none]] []]

/-- A body that makes objects and fails. -/
def hasty : Block :=
  [.yield (.tuple [.int 1, .str "a"]) (some "x"), .yield (.exception (.builtinClass "TypeError") [.localVar "x"]) none,
    .raise (.builtinClass "RuntimeError") (.str "b")]

theorem forgetful_isPrivate : Block.IsPrivate .own forgetful := by
  simp [forgetful, Block.isPrivate_cons, Block.isPrivate_nil, Statement.IsPrivate, Operation.IsPrivate, Expr.isPrivate,
    Expr.arePrivate]

theorem patient_isPrivate : Block.IsPrivate .own patient := by
  have hchild : (coroutineOf "forgetful" forgetful).IsPrivate .own (Block.IsPrivate .own) := ⟨forgetful_isPrivate, rfl, rfl⟩
  have hbody : Block.IsPrivate .own [.yield .handled none] := by
    simp [Block.isPrivate_cons, Block.isPrivate_nil, Statement.IsPrivate, Expr.isPrivate]
  have hclause : Clause.IsPrivate .own (Block.IsPrivate .own) (.mk none none true [.yield .handled none]) := by
    constructor
    · intro cls hcls
      cases hcls
    · exact hbody
  simp [patient, Block.isPrivate_cons, Block.isPrivate_nil, Statement.IsPrivate, Operation.IsPrivate, Expr.isPrivate,
    hchild, hclause]

theorem hasty_isPrivate : Block.IsPrivate .own hasty := by
  simp [hasty, Block.isPrivate_cons, Block.isPrivate_nil, Statement.IsPrivate, Expr.isPrivate, Expr.arePrivate]

/-- Scripts that use nothing but what they have. -/
def secluded : Privacy Script.language := Script.privacy .own nofun

/-- How the coroutine with some number is built. -/
def planOf (i : Nat) (name : String) : Blueprint where
  code := ⟨i, ⟨2 * i + 1, name⟩, ⟨2 * i + 2, name⟩, 1, true⟩
  name := none
  qualname := none
  parameters := []
  closure := []
  stackSize := none
  reportChildren := none
  failures := 0
  lossIn := none

/-- The world in which both were built. -/
def two : World Script.language :=
  (makeCoroutine (planOf 0 "patient") >>= fun _ => makeCoroutine (planOf 1 "hasty"))
    { World.fresh 0 with programs := #[patient, hasty], serial := 5 } |>.2

/-- A coroutine, its code, and the two names. -/
def estateOf (n : Nat) : Estate
  | .identity, i => i = 2 * n + 1 ∨ i = 2 * n + 2
  | .code, i => i = n
  | .coroutine, i => i = n
  | _, _ => False

theorem estateOf_isClosed {n : Nat} (hn : n < 2) (name : String) {body : Block} (hbody : Block.IsPrivate .own body)
    (hprogram : two.record .code n = some body)
    (hrecord : two.record .coroutine n = (planOf n name).record .fresh) :
    (estateOf n).IsClosed secluded two := by
  have hcode : Like ((estateOf n).likeness secluded two) (planOf n name).code (planOf n name).code :=
    ⟨⟨rfl, rfl⟩, ⟨⟨rfl, .inl rfl⟩, rfl⟩, ⟨⟨rfl, .inr rfl⟩, rfl⟩, rfl, rfl⟩
  constructor
  · intro k i hi
    cases k <;> first | exact hi.elim | skip
    · show i < 5
      rcases hi with rfl | rfl <;> omega
    · obtain rfl := hi
      exact hn
    · obtain rfl := hi
      exact hn
  · intro k i hi
    cases k <;> first | exact hi.elim | skip
    · trivial
    · obtain rfl := hi
      rw [hprogram]
      exact Like.some (α := Script.language.Script) ⟨rfl, Script.Machine.start_isPrivate hbody⟩
    · obtain rfl := hi
      rw [hrecord]
      refine Blueprint.Like.record ?_ rfl
      exact ⟨hcode, .none, .none, .nil, .nil, rfl, rfl, rfl, rfl⟩

/-- The two coroutines have nothing in common. -/
theorem two_apart : Apart (estateOf 0) (estateOf 1) secluded secluded two where
  reach := ⟨rfl, rfl⟩
  left := estateOf_isClosed (by omega) "patient" patient_isPrivate rfl rfl
  right := estateOf_isClosed (by omega) "hasty" hasty_isPrivate rfl rfl
  disjoint := by
    rintro k i hk h h'
    cases k <;> first | exact h.elim | exact absurd rfl hk.1 | exact absurd rfl hk.2 | exact absurd (h.symm.trans h') nofun
  hook := rfl
  borrowed := rfl

/-- A computation gives a result. -/
def Outcome.isOk {α : Type} : Outcome α → Bool
  | .ok _ => true
  | _ => false

theorem exists_of_isOk {L : Language} {α : Type} {x : Outcome α × World L} (h : x.1.isOk = true) :
    ∃ result : α × World L, x = (.ok result.1, result.2) := by
  obtain ⟨ending, w⟩ := x
  cases ending with
  | ok a => exact ⟨(a, w), rfl⟩
  | panic m => cases h
  | stop => cases h

/-- Requests on the patient body. -/
def forPatient : List Prompt := [.send .none, .send (.int 7), .throw (.exceptionClass .valueError) .none .none, .close]

/-- Requests on the hasty body. -/
def forHasty : List Prompt := [.send .none, .send (.bool true), .send .none]

/-- All of them, in some order. -/
def forBoth : List (Prompt ⊕ Prompt) :=
  [.inl (.send .none), .inr (.send .none), .inr (.send (.bool true)), .inl (.send (.int 7)), .inr (.send .none),
    .inl (.throw (.exceptionClass .valueError) .none .none), .inl .close]

theorem interleaved_as_alone_two :
    ∃ left right, (estateOf 0).Serves two ⟨0⟩ forPatient 20 300 left ∧ (estateOf 1).Serves two ⟨1⟩ forHasty 20 300 right ∧
      ∃ all x, interleave (.ofDepth _ 20) ⟨0⟩ ⟨1⟩ forBoth ((two.settled 600).withErrors (some ⟨.valueError, none, none⟩) none) =
          (.ok all, x) ∧
        (estateOf 0).Agree secluded two ⟨0⟩ left (lefts all, x) ∧
        (estateOf 1).Agree secluded two ⟨1⟩ right (rights all, x) := by
  have hpatient : (serve (.ofDepth _ 20) ⟨0⟩ forPatient (two.settled 300)).1.isOk = true := by decide +kernel
  have hhasty : (serve (.ofDepth _ 20) ⟨1⟩ forHasty (two.settled 300)).1.isOk = true := by decide +kernel
  obtain ⟨left, hleft⟩ := exists_of_isOk hpatient
  obtain ⟨right, hright⟩ := exists_of_isOk hhasty
  have hA : (estateOf 0).Serves two ⟨0⟩ forPatient 20 300 left := by
    refine ⟨.coroutine ⟨rfl, rfl⟩, ?_, hleft⟩
    simp only [forPatient, Prompt.operands, List.forall_mem_cons]
    exact ⟨⟨.none, nofun⟩, ⟨.int 7, nofun⟩, ⟨.exceptionClass _, .none, .none, nofun⟩, nofun, nofun⟩
  have hB : (estateOf 1).Serves two ⟨1⟩ forHasty 20 300 right := by
    refine ⟨.coroutine ⟨rfl, rfl⟩, ?_, hright⟩
    simp only [forHasty, Prompt.operands, List.forall_mem_cons]
    exact ⟨⟨.none, nofun⟩, ⟨.bool true, nofun⟩, ⟨.none, nofun⟩, nofun⟩
  exact ⟨left, right, hA, hB, (interleaved_as_alone two_apart hA hB _ none).1 forBoth rfl rfl⟩

end

end CoroutineEngine
