import CoroutineEngine.Coroutine.Builder
import CoroutineEngine.Proofs.Likeness.Echo

/-!
# Making and changing objects side by side

What is made on both sides is paired, and what is paired is changed alike.

Results:
* `Echoes.makeTuple`, `Echoes.makeException`, `Echoes.makeCoroutine`: what is made here is like what is made there.
* `Echoes.updateCoroutine`, `Echoes.retain`: paired objects are changed alike.
* `Echoes.withAmbient`: the ambient states are exchanged for others that are like each other.
-/

namespace CoroutineEngine

variable {L : Language} {P : Privacy L}

/-! ## Changes of a world -/

namespace World

/-- The world with one more object. -/
def put (w : World L) : (k : Kind) → k.Record L → World L
  | .identity, _ => { w with serial := w.serial + 1 }
  | .code, script => { w with programs := script.elim w.programs w.programs.push }
  | .tuple, n => { w with tuples := w.tuples.push n }
  | .exception, r => { w with exceptions := w.exceptions.push r }
  | .cell, r => { w with cells := w.cells.push r }
  | .coroutine, r => { w with coroutines := w.coroutines.push r }
  | .wrapper, r => { w with wrappers := w.wrappers.push r }
  | .frame, r => { w with frames := w.frames.push r }

/-- The world with one object changed. Identities and codes never change. -/
def change (w : World L) : (k : Kind) → Nat → (k.Record L → k.Record L) → World L
  | .identity, _, _ | .code, _, _ => w
  | .tuple, i, f => { w with tuples := w.tuples.modify i f }
  | .exception, i, f => { w with exceptions := w.exceptions.modify i f }
  | .cell, i, f => { w with cells := w.cells.modify i f }
  | .coroutine, i, f => { w with coroutines := w.coroutines.modify i f }
  | .wrapper, i, f => { w with wrappers := w.wrappers.modify i f }
  | .frame, i, f => { w with frames := w.frames.modify i f }

theorem gains_code (w : World L) (script : L.Script) : w.Gains (w.put .code (some script)) .code (some script) := by
  constructor
  · rintro ⟨⟩ <;> simp [extent, put]
  · exact Array.getElem?_push_size
  · rintro ⟨⟩ i hi <;> try rfl
    exact (Array.getElem?_push_lt hi).trans (Array.getElem?_eq_getElem hi).symm
  · rfl

theorem gains_put (w : World L) {k : Kind} (hk : k ≠ .code) (r : k.Record L) : w.Gains (w.put k r) k r := by
  constructor
  · cases k <;> rintro ⟨⟩ <;> simp [extent, put] at hk ⊢
  · cases k with
    | identity => rfl
    | code => exact absurd rfl hk
    | _ => exact Table.get_push_self _ _
  · intro l i hi
    cases k with
    | code => exact absurd rfl hk
    | _ =>
      cases l <;> first
        | rfl
        | exact Table.get_push_lt _ _ hi
  · cases k <;> rfl

theorem alters_change (w : World L) {k : Kind} (hk : k.Changes) (i : Nat)
    (f : k.Record L → k.Record L) : w.Alters (w.change k i f) k i f := by
  constructor
  · cases k <;> rintro ⟨⟩ <;> simp [extent, change]
  · intro hi
    cases k with
    | identity => exact absurd rfl hk.1
    | code => exact absurd rfl hk.2
    | _ => exact Table.get_modify_self _ _ hi
  · intro l j hj
    cases k with
    | identity | code => rfl
    | _ =>
      cases l <;> first
        | rfl
        | exact Table.get_modify_ne _ _ (hj rfl)
  · cases k <;> rfl

namespace Mirrors

variable {ρ : Likeness P} {w w' : World L}

theorem put (hw : w.Mirrors ρ w') {k : Kind} (hk : k ≠ .code) {r r' : k.Record L}
    (hr : k.LikeRecord (hw.next k) r r') : (w.put k r).Mirrors (hw.next k) (w'.put k r') :=
  hw.gain (w.gains_put hk r) (w'.gains_put hk r') hr

theorem change (hw : w.Mirrors ρ w') {k : Kind} (hk : k.Changes) {i j : Nat} (hij : ρ.pairs k i j)
    {f f' : k.Record L → k.Record L} (hf : k.LikeRecord ρ (f (w.record k i)) (f' (w'.record k j))) :
    (w.change k i f).Mirrors ρ (w'.change k j f') :=
  hw.alter hk hij (w.alters_change hk i f) (w'.alters_change hk j f') hf

theorem exception (hw : w.Mirrors ρ w') {e e' : Exception} (he : Like ρ e e') :
    Like ρ (w.exception e) (w'.exception e') := hw.records (k := .exception) he.index

theorem cell (hw : w.Mirrors ρ w') {c c' : CellId} (hc : Like ρ c c') : Like ρ (w.cell c) (w'.cell c') :=
  hw.records (k := .cell) hc

theorem coroutine (hw : w.Mirrors ρ w') {c c' : CoroutineId} (hc : Like ρ c c') :
    Like ρ (w.coroutine c) (w'.coroutine c') := hw.records (k := .coroutine) hc

theorem wrapper (hw : w.Mirrors ρ w') {x x' : WrapperId} (hx : Like ρ x x') : Like ρ (w.wrapper x) (w'.wrapper x') :=
  hw.records (k := .wrapper) hx

theorem line (hw : w.Mirrors ρ w') {f f' : Frame} (hf : Like ρ f f') : (w'.frame f').line = (w.frame f).line :=
  hw.records (k := .frame) hf.index

theorem modifyException (hw : w.Mirrors ρ w') {e e' : Exception} (he : Like ρ e e')
    {f f' : ExceptionRecord → ExceptionRecord} (hf : Like ρ (f (w.exception e)) (f' (w'.exception e'))) :
    (w.modifyException e f).Mirrors ρ (w'.modifyException e' f') :=
  hw.change (k := .exception) (by decide) he.index hf

theorem modifyCoroutine (hw : w.Mirrors ρ w') {c c' : CoroutineId} (hc : Like ρ c c')
    {f f' : CoroutineRecord L → CoroutineRecord L} (hf : Like ρ (f (w.coroutine c)) (f' (w'.coroutine c'))) :
    (w.modifyCoroutine c f).Mirrors ρ (w'.modifyCoroutine c' f') :=
  hw.change (k := .coroutine) (by decide) hc hf

theorem retain (hw : w.Mirrors ρ w') {v v' : Value} (hv : Like ρ v v') : (w.retain v).Mirrors ρ (w'.retain v') := by
  cases hv with
  | tuple hi _ =>
    have hn : w'.tuples.get _ = w.tuples.get _ := hw.records hi
    exact hw.change (k := .tuple) (by decide) hi (congrArg (· + 1) hn)
  | exception he =>
    have hr := hw.exception he
    exact hw.modifyException he { hr with handles := congrArg (· + 1) hr.handles }
  | cell hc =>
    have hr := hw.cell hc
    exact hw.change (k := .cell) (by decide) hc { hr with handles := congrArg (· + 1) hr.handles }
  | coroutine hc =>
    have hr := hw.coroutine hc
    refine hw.modifyCoroutine hc { hr with handles := ?_ }
    simp only [CoroutineRecord.retained, hr.handles]
  | wrapper hx =>
    have hr := hw.wrapper hx
    refine hw.change (k := .wrapper) (by decide) hx ?_
    show WrapperRecord.Like ρ (w.wrapper _).retained (w'.wrapper _).retained
    unfold WrapperRecord.retained
    rw [hr.handles]
    split
    · exact hr
    · exact { hr with handles := rfl }
  | _ => exact hw

end Mirrors

end World

/-! ## Parts -/

section

variable {ρ : Likeness P}

theorem Like.push {entry entry' : TracebackEntry} (he : Like ρ entry entry') {t t' : Option Traceback}
    (ht : Like ρ t t') : Like ρ (Traceback.push entry t) (Traceback.push entry' t') := by
  cases ht with
  | none => exact ⟨he, .nil⟩
  | some ht => exact ⟨he, .cons ht.head ht.tail⟩

theorem Like.exceptions {e e' : Option Exception} (he : Like ρ e e') :
    Like ρ (e.toList.map Value.exception) (e'.toList.map Value.exception) :=
  he.toList.map fun _ _ h => Value.Like.exception h

theorem Like.pendingOwned {p p' : PendingException} (hp : Like ρ p p') : Like ρ p.owned p'.owned :=
  Like.exceptions hp.value

end

/-- Blueprints that are like each other in every part. -/
structure Blueprint.Like (ρ : Likeness P) (b b' : Blueprint) : Prop where
  code : CoroutineEngine.Like ρ b.code b'.code
  name : CoroutineEngine.Like ρ b.name b'.name
  qualname : CoroutineEngine.Like ρ b.qualname b'.qualname
  parameters : CoroutineEngine.Like ρ b.parameters b'.parameters
  closure : CoroutineEngine.Like ρ b.closure b'.closure
  stackSize : b'.stackSize = b.stackSize
  reportChildren : b'.reportChildren = b.reportChildren
  failures : b'.failures = b.failures
  lossIn : b'.lossIn = b.lossIn

theorem Like.getD {α : Type} [Likened P α] {ρ : Likeness P} {a a' : Option α} (ha : Like ρ a a') {b b' : α}
    (hb : Like ρ b b') : Like ρ (a.getD b) (a'.getD b') := by
  cases ha with
  | none => exact hb
  | some ha => exact ha

/-- What is built under the same settings from blueprints that are like each other. -/
theorem Blueprint.Like.record {ρ : Likeness P} {b b' : Blueprint} (hb : b.Like ρ b') {settings settings' : Settings}
    (h : settings' = settings) : (b.record settings : CoroutineRecord L).Like ρ (b'.record settings') where
  handles := rfl
  name := hb.name.getD (Code.Like.name hb.code)
  qualname := hb.qualname.getD (Code.Like.qualname hb.code)
  code := hb.code
  status := rfl
  running := rfl
  finalized := rfl
  fiber := .none
  supply := by simp only [Blueprint.record, Blueprint.supply, hb.failures, hb.lossIn, hb.stackSize, h]
  pending := .none
  frame := .none
  awaiting := .none
  handled := .none
  inputs := ⟨hb.parameters, hb.closure, rfl⟩
  reportChildren := by simp only [Blueprint.record, hb.reportChildren, h]

namespace Echoes

variable {α : Type} [Likened P α] {ρ : Likeness P}

/-- What changes nothing that matters. -/
theorem aside {f f' : World L → World L}
    (hf : ∀ w, (f w).extent = w.extent ∧ (f w).record = w.record ∧ (f w).backdrop = w.backdrop)
    (hf' : ∀ w, (f' w).extent = w.extent ∧ (f' w).record = w.record ∧ (f' w).backdrop = w.backdrop) :
    Echoes ρ (.modify f) (.modify f') :=
  .modify fun w w' hw => hw.congr (hf w) (hf' w')

/-! ## Handles -/

theorem retain {v v' : Value} (hv : Like ρ v v') : Echoes ρ (CoroutineEngine.retain v : Effect L Unit) (CoroutineEngine.retain v') :=
  .modify fun _ _ hw => hw.retain hv

theorem retainAll {vs vs' : List Value} (hvs : Like ρ vs vs') :
    Echoes ρ (CoroutineEngine.retainAll vs : Effect L Unit) (CoroutineEngine.retainAll vs') := by
  induction vs generalizing ρ vs' with
  | nil =>
    cases hvs
    exact .pure rfl
  | cons v vs ih =>
    cases hvs with
    | cons hv hvs => exact .bind (α := Unit) hvs (retain hv) fun ρ hvs _ _ _ => ih hvs

theorem recordOf {c c' : CoroutineId} (hc : Like ρ c c') :
    Echoes ρ (CoroutineEngine.recordOf c : Effect L _) (CoroutineEngine.recordOf c') :=
  .gets fun _ _ hw => hw.coroutine hc

theorem modifyCoroutine {c c' : CoroutineId} (hc : Like ρ c c') {f f' : CoroutineRecord L → CoroutineRecord L}
    (hf : ∀ r r', Like ρ r r' → Like ρ (f r) (f' r')) :
    Echoes ρ (CoroutineEngine.modifyCoroutine c f) (CoroutineEngine.modifyCoroutine c' f') :=
  .modify fun _ _ hw => hw.modifyCoroutine hc (hf _ _ (hw.coroutine hc))

theorem updateCoroutine {c c' : CoroutineId} (hc : Like ρ c c') {f f' : CoroutineRecord L → α × CoroutineRecord L}
    (hf : ∀ r r', Like ρ r r' → Like ρ (f r) (f' r')) :
    Echoes ρ (CoroutineEngine.updateCoroutine c f) (CoroutineEngine.updateCoroutine c' f') :=
  .modifyGet fun _ _ hw =>
    have h := hf _ _ (hw.coroutine hc)
    ⟨ρ, .refl ρ, hw.modifyCoroutine hc h.2, h.1⟩

/-! ## Fresh objects -/

theorem freshIdentity : Echoes (α := Identity) ρ (CoroutineEngine.freshIdentity : Effect L Nat)
    CoroutineEngine.freshIdentity :=
  .modifyGet (α := Identity) fun _ _ hw => ⟨hw.next .identity, hw.grows_next _,
    hw.put (by decide) (show Kind.LikeRecord (hw.next .identity) .identity () () from trivial), hw.next_pairs _⟩

theorem makeText (s : String) : Echoes ρ (makeText s : Effect L Text) (CoroutineEngine.makeText s) :=
  .next (α := Identity) freshIdentity fun _ _ _ hi => .pure ⟨hi, rfl⟩

theorem makeString (s : String) : Echoes ρ (makeString s : Effect L Value) (CoroutineEngine.makeString s) :=
  .next (makeText s) fun _ _ _ ht => .pure (.str ht)

theorem makeTuple {items items' : List Value} (hi : Like ρ items items') :
    Echoes ρ (makeTuple items : Effect L Value) (CoroutineEngine.makeTuple items') :=
  .modifyGet fun _ _ hw => ⟨hw.next .tuple, hw.grows_next _, hw.put (k := .tuple) (by decide) rfl,
    .tuple (hw.next_pairs _) (hi.mono (hw.extends_next _))⟩

theorem makeException (cls : ExceptionClass) {args args' : List Value} (ha : Like ρ args args') :
    Echoes ρ (makeException cls args : Effect L Exception) (CoroutineEngine.makeException cls args') := by
  refine .modifyGet fun w w' hw => ⟨hw.next .exception, hw.grows_next _, hw.put (k := .exception) (by decide) ?_,
    hw.next_pairs _, rfl⟩
  exact ⟨rfl, ha.mono (hw.extends_next _), .none, .none, rfl, .none⟩

theorem makeError (cls : ExceptionClass) (message : String) :
    Echoes ρ (makeError cls message : Effect L Exception) (CoroutineEngine.makeError cls message) :=
  .next (makeString message) fun _ _ _ hv => makeException cls hv.single

theorem raise (error : CoroutineError) : Echoes ρ (error.raise : Effect L Exception) error.raise := makeError _ _

theorem makeStopIteration {v v' : Value} (hv : Like ρ v v') :
    Echoes ρ (makeStopIteration v : Effect L Exception) (CoroutineEngine.makeStopIteration v') := by
  refine makeException _ ?_
  rw [Value.Like.isNone hv]
  split
  · exact .nil
  · exact hv.single

theorem makeCell {content content' : Option Value} (hc : Like ρ content content') :
    Echoes ρ (makeCell content : Effect L CellId) (CoroutineEngine.makeCell content') :=
  .modifyGet fun _ _ hw => ⟨hw.next .cell, hw.grows_next _,
    hw.put (k := .cell) (by decide) ⟨rfl, hc.mono (hw.extends_next _)⟩, hw.next_pairs _⟩

theorem makeFrame {code code' : Code} (hc : Like ρ code code') :
    Echoes ρ (makeFrame code : Effect L Frame) (CoroutineEngine.makeFrame code') :=
  .modifyGet fun _ _ hw => ⟨hw.next .frame, hw.grows_next _, hw.put (k := .frame) (by decide) (Code.Like.firstLine hc),
    hw.next_pairs _, hc.mono (hw.extends_next _)⟩

theorem makeCode {spec : CodeSpec L.Script} (hs : Like ρ spec.body spec.body) :
    Echoes ρ (makeCode spec : Effect L Code) (CoroutineEngine.makeCode spec) := by
  refine .bind hs (makeText _) fun ρ hs name name' hname => ?_
  refine .bind (hs.and hname) (makeText _) fun ρ ⟨hs, hname⟩ qualname qualname' hqualname => ?_
  refine .modifyGet fun w w' hw => ⟨hw.next .code, hw.grows_next _,
    hw.gain (w.gains_code _) (w'.gains_code _) ((hs.mono (hw.extends_next _)).some), ?_⟩
  exact ⟨hw.next_pairs _, hname.mono (hw.extends_next _), hqualname.mono (hw.extends_next _), rfl, rfl⟩

theorem makeTraceback (entries : List (String × UInt32)) :
    Echoes ρ (makeTraceback entries : Effect L (Option Traceback)) (CoroutineEngine.makeTraceback entries) := by
  induction entries generalizing ρ with
  | nil => exact .pure .none
  | cons entry rest ih =>
    refine .next ih fun ρ t t' ht => .bind (α := Identity) ht freshIdentity fun ρ ht i j hi => ?_
    have hentry : Like ρ (⟨i, entry.1, entry.2⟩ : TracebackEntry) ⟨j, entry.1, entry.2⟩ := ⟨hi, rfl, rfl⟩
    exact .pure (hentry.push ht).some

/-! ## Exceptions -/

theorem attachCause {e e' cause cause' : Exception} (he : Like ρ e e') (hc : Like ρ cause cause') :
    Echoes ρ (attachCause e cause : Effect L (Option Exception)) (CoroutineEngine.attachCause e' cause') := by
  refine .modifyGet fun w w' hw => ⟨ρ, .refl ρ, ?_⟩
  have hr := hw.exception he
  rcases hr.cause.absent_or with ⟨h, h'⟩ | ⟨_, _, h, h', -⟩ <;> simp only [h, h']
  · exact ⟨hw.modifyException he { hr with cause := hc.some, suppressContext := rfl }, .none⟩
  · exact ⟨hw.modifyException he { hr with suppressContext := rfl }, hc.some⟩

theorem attachContext {e e' context context' : Exception} (he : Like ρ e e') (hc : Like ρ context context') :
    Echoes ρ (attachContext e context : Effect L (Option Exception)) (CoroutineEngine.attachContext e' context') := by
  refine .modifyGet fun w w' hw => ⟨ρ, .refl ρ, ?_⟩
  have hr := hw.exception he
  rcases hr.context.absent_or with ⟨h, h'⟩ | ⟨_, _, h, h', -⟩ <;> simp only [h, h']
  · exact ⟨hw.modifyException he { hr with context := hc.some }, .none⟩
  · exact ⟨hw, hc.some⟩

theorem setTraceback {e e' : Exception} (he : Like ρ e e') {t t' : Option Traceback} (ht : Like ρ t t') :
    Echoes ρ (setTraceback e t : Effect L Unit) (CoroutineEngine.setTraceback e' t') :=
  .modify fun _ _ hw => hw.modifyException he { hw.exception he with traceback := ht }

theorem pushTraceback {e e' : Exception} (he : Like ρ e e') {f f' : Frame} (hf : Like ρ f f') :
    Echoes ρ (pushTraceback e f : Effect L Unit) (CoroutineEngine.pushTraceback e' f') := by
  refine .bind (α := Identity) (he.and hf) freshIdentity fun ρ ⟨he, hf⟩ i j hi => ?_
  refine .modify fun w w' hw => hw.modifyException he ?_
  have hr := hw.exception he
  exact { hr with traceback := .some (Like.push ⟨hi, hf.code.qualname.content, hw.line hf⟩ hr.traceback) }

theorem stopValue {e e' : Exception} (he : Like ρ e e') :
    Echoes ρ (stopValue e : Effect L Value) (CoroutineEngine.stopValue e') := by
  refine .next (.gets fun w w' hw => ?_) fun ρ v v' hv => .bind hv (retain hv) fun ρ hv _ _ _ => .pure hv
  exact Like.headD (Value.Like.none : Like ρ Value.none Value.none) (hw.exception he).args

theorem pendingOf {e e' : Exception} (he : Like ρ e e') :
    Echoes ρ (pendingOf e : Effect L PendingException) (CoroutineEngine.pendingOf e') :=
  .gets fun _ _ hw => ⟨Exception.Like.cls he, he.some, (hw.exception he).traceback⟩

theorem instantiate {p p' : PendingException} (hp : Like ρ p p') :
    Echoes ρ (p.instantiate : Effect L Exception) p'.instantiate := by
  -- the traceback of the triple becomes the instance's
  have finish {ρ : Likeness P} {e e' : Exception} (hp : Like ρ p p') (he : Like ρ e e') : Echoes ρ (do
      if p.traceback.isSome then
        CoroutineEngine.setTraceback e p.traceback
      return e : Effect L Exception) (do
      if p'.traceback.isSome then
        CoroutineEngine.setTraceback e' p'.traceback
      return e') := by
    rw [hp.traceback.isSome]
    split
    · exact .bind he (setTraceback he hp.traceback) fun _ he _ _ _ => .pure he
    · exact .pure he
  unfold PendingException.instantiate
  rcases hp.value.absent_or with ⟨h, h'⟩ | ⟨e, e', h, h', he⟩ <;> simp only [h, h']
  · rw [hp.kind]
    exact .bind hp (makeException _ .nil) fun _ hp _ _ he => finish hp he
  · exact finish hp he

/-! ## Events and the registry -/

theorem log (level level' : LogLevel) (message message' : String) (fields fields' : List (String × Datum)) :
    Echoes ρ (log level message fields : Effect L Unit) (CoroutineEngine.log level' message' fields') := by
  have apart (level : LogLevel) (message : String) (fields : List (String × Datum)) (w : World L) :
      let v := (CoroutineEngine.log level message fields w).2
      v.extent = w.extent ∧ v.record = w.record ∧ v.backdrop = w.backdrop := by
    unfold CoroutineEngine.log
    dsimp only [Effect.modify_apply]
    split
    · split <;> exact ⟨rfl, rfl, rfl⟩
    · exact ⟨rfl, rfl, rfl⟩
  exact .aside (apart level message fields) (apart level' message' fields')

theorem emit (event event' : Event) : Echoes ρ (emit event : Effect L Unit) (CoroutineEngine.emit event') :=
  .aside (fun _ => ⟨rfl, rfl, rfl⟩) fun _ => ⟨rfl, rfl, rfl⟩

theorem logCoroutine (level level' : LogLevel) (message message' : String) (c c' : CoroutineId)
    (fields fields' : List (String × Datum)) :
    Echoes ρ (logCoroutine level message c fields : Effect L Unit)
      (CoroutineEngine.logCoroutine level' message' c' fields') :=
  .next (α := Hidden String) (gets fun _ _ _ => trivial) fun _ _ _ _ => log _ _ _ _ _ _

theorem trackObject (id id' : TrackedId) (kind kind' : String) :
    Echoes ρ (trackObject id kind : Effect L Unit) (CoroutineEngine.trackObject id' kind') :=
  .next (aside (fun _ => ⟨rfl, rfl, rfl⟩) fun _ => ⟨rfl, rfl, rfl⟩) fun _ _ _ _ => log _ _ _ _ _ _

theorem untrackObject (id id' : TrackedId) :
    Echoes (α := Hidden Bool) ρ (untrackObject id : Effect L Bool) (CoroutineEngine.untrackObject id') := by
  refine .next (α := Hidden Bool) (.modifyGet fun w w' hw => ?_) fun _ _ _ _ =>
    .next (log _ _ _ _ _ _) fun _ _ _ _ => .pure trivial
  exact ⟨ρ, .refl ρ, hw.congr ⟨rfl, rfl, rfl⟩ ⟨rfl, rfl, rfl⟩, trivial⟩

/-! ## The ambient state -/

theorem withAmbient {f f' : Ambient L → α × Ambient L}
    (hf : ∀ a a', a.Like ρ a' → Like ρ (f a).1 (f' a').1 ∧ (f a).2.Like ρ (f' a').2) :
    Echoes ρ (withAmbient f) (CoroutineEngine.withAmbient f') := by
  constructor
  intro w w' hw
  have h := hf _ _ hw.ambient
  rcases hborrowed : w.ambient.borrowed with _ | _
  · exact .of_ok (withAmbient_usable hborrowed) (withAmbient_usable (hw.ambient.borrowed.trans hborrowed))
      ⟨ρ, .refl ρ, { hw with ambient := h.2 }, h.1⟩
  · -- a state that is borrowed cannot be used
    refine ⟨?_⟩
    simp only [CoroutineEngine.withAmbient, hborrowed, if_true]
    exact False.elim

theorem fetchError : Echoes ρ (fetchError : Effect L (Option PendingException)) CoroutineEngine.fetchError :=
  withAmbient fun _ _ ha => ⟨ha.error, { ha with error := .none }⟩

theorem swapError {error error' : Option PendingException} (he : Like ρ error error') :
    Echoes ρ (swapError error : Effect L (Option PendingException)) (CoroutineEngine.swapError error') :=
  withAmbient fun _ _ ha => ⟨ha.error, { ha with error := he }⟩

theorem errorOccurred : Echoes ρ (errorOccurred : Effect L Bool) CoroutineEngine.errorOccurred :=
  withAmbient fun _ _ ha => ⟨ha.error.isSome, ha⟩

theorem currentError : Echoes ρ (currentError : Effect L (Option PendingException)) CoroutineEngine.currentError := by
  refine .next (withAmbient fun _ _ ha => ⟨ha.error, ha⟩) fun ρ error error' he => ?_
  cases he with
  | none => exact .pure .none
  | some hp =>
    exact .bind hp (retainAll (hp.pendingOwned)) fun _ hp _ _ _ => .pure (.some hp)

theorem handledException :
    Echoes ρ (handledException : Effect L (Option Exception)) CoroutineEngine.handledException := by
  refine .next (withAmbient fun _ _ ha => ⟨ha.handled, ha⟩) fun ρ handled handled' hh => ?_
  cases hh with
  | none => exact .pure .none
  | some he => exact .bind he (retain (.exception he)) fun _ he _ _ _ => .pure (.some he)

theorem swapHandled {handled handled' : Option Exception} (hh : Like ρ handled handled') :
    Echoes ρ (swapHandled handled : Effect L (Option Exception)) (CoroutineEngine.swapHandled handled') :=
  withAmbient fun _ _ ha => ⟨ha.handled, { ha with handled := hh }⟩

theorem swapTop (top top' : Option Frame) :
    Echoes (α := Hidden (Option Frame)) ρ (swapTop top : Effect L (Option Frame)) (CoroutineEngine.swapTop top') :=
  withAmbient (α := Hidden (Option Frame)) fun _ _ ha => ⟨trivial, { ha with }⟩

theorem swapBack {f f' : Frame} (hf : Like ρ f f') (back back' : Option Frame) :
    Echoes (α := Hidden (Option Frame)) ρ (swapBack f back : Effect L (Option Frame))
      (CoroutineEngine.swapBack f' back') := by
  refine .modifyGet (α := Hidden (Option Frame)) fun w w' hw => ⟨ρ, .refl ρ, ?_, trivial⟩
  exact hw.change (k := .frame) (by decide) hf.index (hw.line hf)

theorem takeHook : Echoes ρ (takeHook : Effect L (Option (Hook L))) CoroutineEngine.takeHook :=
  withAmbient fun _ _ ha => ⟨ha.hook, { ha with hook := .none }⟩

theorem swapHook {hook hook' : Option (Hook L)} (hh : Like ρ hook hook') :
    Echoes ρ (swapHook hook : Effect L (Option (Hook L))) (CoroutineEngine.swapHook hook') :=
  withAmbient fun _ _ ha => ⟨ha.hook, { ha with hook := hh }⟩

theorem reinstallHook {hook hook' : Hook L} (hh : Like ρ hook hook') :
    Echoes ρ (reinstallHook hook : Effect L (Option (Hook L))) (CoroutineEngine.reinstallHook hook') := by
  refine withAmbient fun a a' ha => ?_
  rcases ha.hook.absent_or with ⟨h, h'⟩ | ⟨_, _, h, h', -⟩ <;> simp only [h, h']
  · exact ⟨.none, { ha with hook := hh.some }⟩
  · exact ⟨hh.some, ha⟩

/-- The state is borrowed for the sake of hooks only. -/
theorem whileBorrowed (hthread : P.reach.thread) {k k' : α} (hk : Like ρ k k') {x x' : Effect L Unit}
    (hx : ∀ ρ : Likeness P, Like ρ k k' → Echoes ρ x x') :
    Echoes ρ (whileBorrowed x) (CoroutineEngine.whileBorrowed x') := by
  have lent (borrowed : Bool) {ρ : Likeness P} : Echoes ρ
      (.modify fun w : World L => { w with ambient := { w.ambient with borrowed } })
      (.modify fun w => { w with ambient := { w.ambient with borrowed } }) :=
    .modify fun _ _ hw => { hw with ambient := { hw.ambient with borrowed := rfl, lender := fun _ => hthread } }
  exact .bind hk (lent true) fun ρ hk _ _ _ => .andFinally hk (hx ρ hk) fun _ _ => lent false

/-! ## Coroutines and wrappers -/

theorem makeCoroutine {b b' : Blueprint} (hb : b.Like ρ b') :
    Echoes ρ (makeCoroutine b : Effect L CoroutineId) (CoroutineEngine.makeCoroutine b') := by
  refine .next (.modifyGet fun w w' hw => ⟨hw.next .coroutine, hw.grows_next _, ?_, hw.next_pairs _⟩)
    fun ρ c c' hc => ?_
  · have hr : Like ρ (b.record w.settings : CoroutineRecord L) (b'.record w'.settings) := hb.record hw.settings
    exact hw.put (k := .coroutine) (by decide) (hr.mono (hw.extends_next _))
  · refine .bind hc (trackObject _ _ _ _) fun ρ hc _ _ _ => ?_
    exact .bind hc (logCoroutine _ _ _ _ _ _ _ _) fun _ hc _ _ _ => .pure hc

theorem makeWrapper {c c' : CoroutineId} (hc : Like ρ c c') :
    Echoes ρ (makeWrapper c : Effect L WrapperId) (CoroutineEngine.makeWrapper c') := by
  refine .next (.modifyGet fun w w' hw => ⟨hw.next .wrapper, hw.grows_next _,
    hw.put (k := .wrapper) (by decide) ⟨rfl, hc.mono (hw.extends_next _)⟩, hw.next_pairs _⟩) fun ρ x x' hx => ?_
  exact .bind hx (trackObject _ _ _ _) fun _ hx _ _ _ => .pure hx

end Echoes

end CoroutineEngine
