import CoroutineEngine.Proofs.Likeness.Privacy
import CoroutineEngine.Script.Machine

/-!
# Scripts that keep to themselves

A script is private if all that it says is, in every block of it, and in the scripts of the coroutines that it builds.
Its machine then issues private commands only.

Results:
* `Script.Machine.IsPrivate.next`: a private machine issues private commands and stays private.
* `Script.privacy`: the privacy of scripts.
-/

namespace CoroutineEngine

variable {R : Reach}

theorem CodeSource.IsPrivate.mono {S : Type} {safe safe' : S → Prop} (h : ∀ p, safe p → safe' p) {source : CodeSource S}
    (hsource : source.IsPrivate R safe) : source.IsPrivate R safe' := by
  cases source with
  | spec code => exact h _ hsource
  | value e => exact hsource

/-- What is private stays so when more programs are safe. -/
theorem Operation.IsPrivate.mono {S : Type} {safe safe' : S → Prop} (h : ∀ p, safe p → safe' p) {op : Operation S}
    (hop : op.IsPrivate R safe) : op.IsPrivate R safe' := by
  cases op with
  | makeCode spec => exact h _ hop
  | makeCoroutine spec => exact { hop with code := hop.code.mono h }
  | makeFrame code | pushFrame code => exact CodeSource.IsPrivate.mono h hop
  | _ => exact hop

namespace Script

/-! ## Definitions -/

section

variable (R)

/-- All that it says is private, as far as clauses go, whose blocks are safe. -/
structure Clause.IsPrivate (safe : Block → Prop) (c : Clause) : Prop where
  pattern : ∀ cls, c.pattern = some cls → cls.isPrivate R
  body : safe c.body

/-- All that it says is private, where its blocks are safe. -/
def Statement.IsPrivate (safe : Block → Prop) : Statement → Prop
  | .yield value _ | .await value _ | .result value => value.isPrivate R
  | .raise value arg => value.isPrivate R && arg.isPrivate R
  | .leaveLoop | .panic _ => True
  | .attempt body clauses cleanup => safe body ∧ (∀ c ∈ clauses, c.IsPrivate R safe) ∧ safe cleanup
  | .branch condition yes no => condition.isPrivate R ∧ safe yes ∧ safe no
  | .loop _ body => safe body
  | .perform op _ => op.IsPrivate R safe

/-- All that is said in the block is private, and in the blocks that one gets to from there. -/
def Block.IsPrivate (b : Block) : Prop :=
  ∃ safe : Block → Prop, safe b ∧ ∀ c, safe c → ∀ s ∈ c, s.IsPrivate R safe

/-- A level with private blocks. -/
def Level.IsPrivate : Level → Prop
  | .block rest => Block.IsPrivate R rest
  | .loop _ body => Block.IsPrivate R body
  | .attempt clauses last => (∀ c ∈ clauses, c.IsPrivate R (Block.IsPrivate R)) ∧ Block.IsPrivate R last
  | .clause _ last => Block.IsPrivate R last
  | .cleanup _ => True

/-- A phase with private blocks. -/
def Phase.IsPrivate : Phase → Prop
  | .run | .unwind _ => True
  | .branch yes no => Block.IsPrivate R yes ∧ Block.IsPrivate R no
  | .select c rest last =>
    c.IsPrivate R (Block.IsPrivate R) ∧ (∀ c ∈ rest, c.IsPrivate R (Block.IsPrivate R)) ∧ Block.IsPrivate R last
  | .bound c last | .entered c last => c.IsPrivate R (Block.IsPrivate R) ∧ Block.IsPrivate R last
  | .left _ last => Block.IsPrivate R last

/-- A machine in which every block is private. -/
structure Machine.IsPrivate (m : Machine) : Prop where
  phase : m.phase.IsPrivate R
  levels : ∀ l ∈ m.levels, l.IsPrivate R

/-- A private command, after which the machine is private. -/
structure Move.IsPrivate (move : Move) : Prop where
  command : move.1.IsPrivate R (Block.IsPrivate R)
  machine : move.2.IsPrivate R

end

/-! ## Blocks -/

theorem Statement.IsPrivate.mono {safe safe' : Block → Prop} (h : ∀ b, safe b → safe' b) {s : Statement}
    (hs : s.IsPrivate R safe) : s.IsPrivate R safe' := by
  cases s with
  | attempt body clauses cleanup =>
    exact ⟨h _ hs.1, fun c hc => { hs.2.1 c hc with body := h _ (hs.2.1 c hc).body }, h _ hs.2.2⟩
  | branch condition yes no => exact ⟨hs.1, h _ hs.2.1, h _ hs.2.2⟩
  | loop times body => exact h _ hs
  | perform op target => exact Operation.IsPrivate.mono h hs
  | _ => exact hs

/-- A block is private if every statement of it is, with private blocks in it. -/
theorem Block.isPrivate_iff {b : Block} : Block.IsPrivate R b ↔ ∀ s ∈ b, s.IsPrivate R (Block.IsPrivate R) := by
  constructor
  · rintro ⟨safe, hb, hsafe⟩ s hs
    exact (hsafe b hb s hs).mono fun c hc => ⟨safe, hc, hsafe⟩
  · intro hb
    refine ⟨fun c => ∀ s ∈ c, s.IsPrivate R (Block.IsPrivate R), hb, fun c hc s hs => (hc s hs).mono ?_⟩
    rintro d ⟨safe, hd, hsafe⟩ t ht
    exact (hsafe d hd t ht).mono fun c hc => ⟨safe, hc, hsafe⟩

theorem Block.isPrivate_nil : Block.IsPrivate R [] := Block.isPrivate_iff.mpr fun _ h => nomatch h

theorem Block.isPrivate_cons {s : Statement} {b : Block} :
    Block.IsPrivate R (s :: b) ↔ s.IsPrivate R (Block.IsPrivate R) ∧ Block.IsPrivate R b := by
  rw [Block.isPrivate_iff, Block.isPrivate_iff, List.forall_mem_cons]

/-! ## Moves -/

namespace Machine

variable {levels : List Level} (h : ∀ l ∈ levels, l.IsPrivate R)

include h

theorem levels_cons {l : Level} (hl : l.IsPrivate R) : ∀ x ∈ l :: levels, x.IsPrivate R :=
  List.forall_mem_cons.mpr ⟨hl, h⟩

theorem cleanUp_isPrivate (s : Signal) {cleanup : Block} (hcleanup : Block.IsPrivate R cleanup) :
    (cleanUp s cleanup levels).IsPrivate R :=
  ⟨trivial, trivial, levels_cons (levels_cons h (l := .cleanup s) trivial) (l := .block cleanup) hcleanup⟩

theorem runClause_isPrivate {c : Clause} (hc : c.IsPrivate R (Block.IsPrivate R)) {cleanup : Block}
    (hcleanup : Block.IsPrivate R cleanup) : (runClause c cleanup levels).IsPrivate R :=
  ⟨trivial, trivial, levels_cons (levels_cons h (l := .clause c.handles cleanup) hcleanup) (l := .block c.body) hc.body⟩

theorem enterClause_isPrivate {c : Clause} (hc : c.IsPrivate R (Block.IsPrivate R)) {cleanup : Block}
    (hcleanup : Block.IsPrivate R cleanup) : (enterClause c cleanup levels).IsPrivate R := by
  unfold enterClause
  split
  · exact ⟨trivial, ⟨hc, hcleanup⟩, h⟩
  · exact ⟨trivial, ⟨hc, hcleanup⟩, h⟩

theorem takeClause_isPrivate {c : Clause} (hc : c.IsPrivate R (Block.IsPrivate R)) {cleanup : Block}
    (hcleanup : Block.IsPrivate R cleanup) : (takeClause c cleanup levels).IsPrivate R := by
  unfold takeClause
  split
  · exact ⟨trivial, ⟨hc, hcleanup⟩, h⟩
  · exact enterClause_isPrivate h hc hcleanup

theorem selectClause_isPrivate {clauses : List Clause} (hclauses : ∀ c ∈ clauses, c.IsPrivate R (Block.IsPrivate R))
    {cleanup : Block} (hcleanup : Block.IsPrivate R cleanup) : (selectClause clauses cleanup levels).IsPrivate R := by
  unfold selectClause
  split
  · exact cleanUp_isPrivate h _ hcleanup
  · obtain ⟨hc, hrest⟩ := List.forall_mem_cons.mp hclauses
    split
    · next cls hcls => exact ⟨hc.pattern cls hcls, ⟨hc, hrest, hcleanup⟩, h⟩
    · exact takeClause_isPrivate h hc hcleanup

theorem leaveClause_isPrivate (s : Signal) (handles : Bool) {cleanup : Block} (hcleanup : Block.IsPrivate R cleanup) :
    (leaveClause s handles cleanup levels).IsPrivate R := by
  unfold leaveClause
  split
  · exact ⟨trivial, hcleanup, h⟩
  · exact cleanUp_isPrivate h s hcleanup

theorem runStatement_isPrivate {s : Statement} (hs : s.IsPrivate R (Block.IsPrivate R)) :
    (runStatement s levels).IsPrivate R := by
  cases s with
  | «yield» value target => exact ⟨hs, trivial, h⟩
  | await value target => exact ⟨hs, trivial, h⟩
  | result value => exact ⟨hs, trivial, h⟩
  | raise value arg => exact ⟨hs, trivial, h⟩
  | leaveLoop => exact ⟨trivial, trivial, h⟩
  | attempt body clauses cleanup =>
    exact ⟨trivial, trivial, levels_cons (levels_cons h (l := .attempt clauses cleanup) hs.2) (l := .block body) hs.1⟩
  | branch condition yes no => exact ⟨hs.1, hs.2, h⟩
  | loop times body => exact ⟨trivial, trivial, levels_cons h (l := .loop times body) hs⟩
  | perform op target => exact ⟨hs, trivial, h⟩
  | panic message => exact ⟨trivial, trivial, h⟩

theorem run_isPrivate : (run levels).IsPrivate R := by
  unfold run
  split
  · exact ⟨rfl, trivial, h⟩
  all_goals obtain ⟨hl, hrest⟩ := List.forall_mem_cons.mp h
  · exact ⟨trivial, trivial, hrest⟩
  · obtain ⟨hs, hmore⟩ := Block.isPrivate_cons.mp hl
    exact runStatement_isPrivate (levels_cons hrest (l := .block _) hmore) hs
  · exact ⟨trivial, trivial, hrest⟩
  · next left body rest _ =>
    have hloop : (Level.loop (left.map (· - 1)) body).IsPrivate R := hl
    exact ⟨trivial, trivial, levels_cons (levels_cons hrest hloop) (l := .block body) hl⟩
  · exact cleanUp_isPrivate hrest _ hl.2
  · exact leaveClause_isPrivate hrest _ _ hl
  · exact ⟨trivial, trivial, hrest⟩
  · exact ⟨trivial, trivial, hrest⟩

theorem unwind_isPrivate (s : Signal) : (unwind s levels).IsPrivate R := by
  unfold unwind
  split
  · cases s
    · exact ⟨rfl, trivial, h⟩
    · exact ⟨rfl, trivial, h⟩
    · exact ⟨trivial, trivial, h⟩
    · exact ⟨trivial, trivial, h⟩
  all_goals obtain ⟨hl, hrest⟩ := List.forall_mem_cons.mp h
  · exact ⟨trivial, trivial, hrest⟩
  · split
    · exact ⟨trivial, trivial, hrest⟩
    · exact ⟨trivial, trivial, hrest⟩
  · split
    · exact selectClause_isPrivate hrest hl.1 hl.2
    · exact cleanUp_isPrivate hrest s hl.2
  · exact leaveClause_isPrivate hrest s _ hl
  · split
    · exact ⟨trivial, trivial, hrest⟩
    · exact ⟨trivial, trivial, hrest⟩

omit h

theorem IsPrivate.goOn {m : Machine} (hm : m.IsPrivate R) (truth : Bool) : (m.goOn truth).IsPrivate R := by
  obtain ⟨phase, levels⟩ := m
  obtain ⟨hphase, hlevels⟩ := hm
  cases phase with
  | run => exact run_isPrivate hlevels
  | unwind s => exact unwind_isPrivate hlevels s
  | branch yes no =>
    refine ⟨trivial, trivial, levels_cons hlevels (l := .block _) ?_⟩
    show Block.IsPrivate R (if truth then yes else no)
    split
    · exact hphase.1
    · exact hphase.2
  | select c rest cleanup =>
    unfold Machine.goOn
    dsimp only
    split
    · exact takeClause_isPrivate hlevels hphase.1 hphase.2.2
    · exact selectClause_isPrivate hlevels hphase.2.1 hphase.2.2
  | bound c cleanup => exact enterClause_isPrivate hlevels hphase.1 hphase.2
  | entered c cleanup => exact runClause_isPrivate hlevels hphase.1 hphase.2
  | left s cleanup => exact cleanUp_isPrivate hlevels s hphase

/-- Whatever it is answered, a private machine issues a private command and stays private. -/
theorem IsPrivate.next {m : Machine} (hm : m.IsPrivate R) (a : Answer) : (m.next a).IsPrivate R := by
  cases a with
  | raised e => exact unwind_isPrivate hm.levels .raised
  | truth b => exact hm.goOn b
  | _ => exact hm.goOn false

theorem start_isPrivate {b : Block} (hb : Block.IsPrivate R b) : (start b).IsPrivate R :=
  ⟨trivial, fun l hl => by
    cases List.mem_singleton.mp hl
    exact hb⟩

end Machine

/-- The programs of hooks use two slots. -/
def HasHooks (R : Reach) : Prop := R.thread → R.slots "victim" ∧ R.slots "kept"

theorem reaction_isPrivate (hR : HasHooks R) (hthread : R.thread) (mode : String) :
    Block.IsPrivate R (reaction mode) := by
  obtain ⟨hvictim, hkept⟩ := hR hthread
  have herror (cls message : String) : (errorExpr cls message).isPrivate R = true := rfl
  unfold reaction
  split <;> simp [Block.isPrivate_cons, Block.isPrivate_nil, Statement.IsPrivate, Operation.IsPrivate, Expr.isPrivate,
    herror, hvictim, hkept, hthread]

/-- Private machines; a script goes by the kind of an answer and by its truth. -/
def privacy (R : Reach) (hR : HasHooks R) : Privacy language where
  reach := R
  safe := Machine.IsPrivate R
  command {m} hm a := by
    have h := (Machine.IsPrivate.next hm a).command
    show (m.next a).1.IsPrivate R fun b => (Machine.start b).IsPrivate R
    generalize (m.next a).1 = command at h
    cases command with
    | perform op target =>
      have hop : op.IsPrivate R (Block.IsPrivate R) := h
      exact hop.mono fun _ hb => Machine.start_isPrivate hb
    | _ => exact h
  next hm a := (Machine.IsPrivate.next hm a).machine
  indifferent _ _ _ _ h := by
    cases h <;> rfl
  reaction hthread mode := Machine.start_isPrivate (reaction_isPrivate hR hthread mode)

end Script

end CoroutineEngine
