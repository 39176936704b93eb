import CoroutineEngine.Proofs.Likeness.Objects
import CoroutineEngine.Proofs.Texts
import CoroutineEngine.Report.Inspection

/-!
# Texts of what is like each other

No number is written, so what is like each other is written alike. The other world may have more objects, and may
therefore write longer texts.

Results:
* `World.Mirrors.debug?`, `World.Mirrors.display?`: so many objects deep, the texts are the same.
* `World.Mirrors.picture`: what is like each other looks the same.
* `Echoes.rendered`: texts that are written in one world are written in the other one.
-/

namespace CoroutineEngine

variable {L : Language} {P : Privacy L}

theorem mapM_eq_of_forall₂ {α β : Type} {R : α → α → Prop} {f f' : α → Option β} (h : ∀ a a', R a a' → f' a' = f a)
    {as as' : List α} (has : List.Forall₂ R as as') : as'.mapM f' = as.mapM f := by
  induction has with
  | nil => rfl
  | cons ha _ ih => rw [List.mapM_cons, List.mapM_cons, h _ _ ha, ih]

/-! ## The same texts -/

namespace World.Mirrors

variable {ρ : Likeness P} {w w' : World L}

theorem frameText (hw : w.Mirrors ρ w') {f f' : Frame} (hf : Like ρ f f') : w'.frameText f' = w.frameText f := by
  have hline : (w'.frame f').line = (w.frame f).line := hw.line hf
  simp only [World.frameText, hline, hf.code.qualname.content]

theorem coroutineRepr (hw : w.Mirrors ρ w') {c c' : CoroutineId} (hc : Like ρ c c') :
    w'.coroutineRepr c' = w.coroutineRepr c := by
  have hqualname : Like ρ (w.coroutine c).qualname (w'.coroutine c').qualname := (hw.coroutine hc).qualname
  unfold World.coroutineRepr
  rw [hqualname.content]

theorem wrapperText (hw : w.Mirrors ρ w') {x x' : WrapperId} (hx : Like ρ x x') :
    w'.wrapperText x' = w.wrapperText x := by
  have hc := (hw.wrapper hx).coroutine
  have hqualname := (hw.coroutine hc).qualname
  unfold World.wrapperText
  rw [Text.Like.content hqualname]

theorem debug? (hw : w.Mirrors ρ w') {v v' : Value} (hv : Like ρ v v') (fuel : Nat) :
    w'.debug? fuel v' = w.debug? fuel v := by
  induction fuel generalizing v v' with
  | zero => rfl
  | succ fuel ih =>
    cases hv with
    | none | bool | int | float | exceptionClass => rfl
    | str ht => simp only [World.debug?, ht.content]
    | tuple _ hitems => rw [debug?_tuple, debug?_tuple, mapM_eq_of_forall₂ (fun _ _ h => ih h) hitems]
    | exception he =>
      have argument {a a' : Value} (ha : Value.Like ρ.toPairing a a') : w'.argument? fuel a' = w.argument? fuel a := by
        cases ha with
        | str ht => simp only [argument?, ht.content]
        | none => exact ih Value.Like.none
        | bool b => exact ih (.bool b)
        | int i => exact ih (.int i)
        | float x => exact ih (.float x)
        | tuple hi hitems => exact ih (.tuple hi hitems)
        | exceptionClass cls => exact ih (.exceptionClass cls)
        | exception he => exact ih (.exception he)
        | traceback ht => exact ih (.traceback ht)
        | cell hc => exact ih (.cell hc)
        | code hc => exact ih (.code hc)
        | frame hf => exact ih (.frame hf)
        | coroutine hc => exact ih (.coroutine hc)
        | wrapper hx => exact ih (.wrapper hx)
      rw [debug?_exception, debug?_exception, he.cls,
        mapM_eq_of_forall₂ (fun _ _ h => argument h) (hw.exception he).args]
    | traceback ht => simp only [World.debug?, Traceback.entries, List.length_cons, ht.tail.length_eq]
    | @cell c c' hc =>
      rcases (hw.cell (show Like ρ c c' from hc)).content.absent_or with ⟨h, h'⟩ | ⟨_, _, h, h', hv⟩
      · rw [debug?_emptyCell h, debug?_emptyCell h']
      · rw [debug?_cell h, debug?_cell h', ih hv]
    | code hc => simp only [World.debug?, hc.name.content]
    | frame hf => exact congrArg some (hw.frameText hf)
    | coroutine hc => exact congrArg some (hw.coroutineRepr hc)
    | wrapper hx => exact congrArg some (hw.wrapperText hx)

theorem display? (hw : w.Mirrors ρ w') {v v' : Value} (hv : Like ρ v v') (fuel : Nat) :
    w'.display? fuel v' = w.display? fuel v := by
  induction fuel generalizing v v' with
  | zero => rfl
  | succ fuel ih =>
    have same := hw.debug? hv (fuel + 1)
    cases hv with
    | str ht => exact congrArg some ht.content
    | exception he =>
      have hargs := (hw.exception he).args
      rw [display?_exception, display?_exception]
      generalize (w.exception _).args = args, (w'.exception _).args = args' at hargs ⊢
      cases hargs with
      | nil => rfl
      | cons ha has =>
        cases has with
        | nil => exact ih ha
        | cons hb hbs =>
          have each (a a' : Value) (h : Like ρ a a') : w'.debug? fuel a' = w.debug? fuel a := hw.debug? h fuel
          exact congrArg (Option.map tupleText) (mapM_eq_of_forall₂ each (.cons ha (.cons hb hbs)))
    | _ => exact same

end World.Mirrors

/-! ## Longer texts -/

namespace World.Mirrors

variable {ρ : Likeness P} {w w' : World L}

theorem depthBound_le (hw : w.Mirrors ρ w') : w.depthBound ≤ w'.depthBound := by
  have htuples : w.tuples.size ≤ w'.tuples.size := hw.fewer .tuple
  have hexceptions : w.exceptions.size ≤ w'.exceptions.size := hw.fewer .exception
  have hcells : w.cells.size ≤ w'.cells.size := hw.fewer .cell
  unfold World.depthBound
  omega

theorem display (hw : w.Mirrors ρ w') {v v' : Value} (hv : Like ρ v v') {s : String} (hs : w.display v = some s) :
    w'.display v' = some s :=
  display?_mono hw.depthBound_le v' ((hw.display? hv _).trans hs)

theorem debug (hw : w.Mirrors ρ w') {v v' : Value} (hv : Like ρ v v') {s : String} (hs : w.debug v = some s) :
    w'.debug v' = some s :=
  debug?_mono hw.depthBound_le v' ((hw.debug? hv _).trans hs)

theorem message (hw : w.Mirrors ρ w') {e e' : Exception} (he : Like ρ e e') {s : String}
    (hs : w.message e = some s) : w'.message e' = some s :=
  hw.display (.exception he) hs

theorem exceptionText (hw : w.Mirrors ρ w') {e e' : Exception} (he : Like ρ e e') {s : String}
    (hs : w.exceptionText e = some s) : w'.exceptionText e' = some s := by
  obtain ⟨m, hm, rfl⟩ := Option.map_eq_some_iff.mp hs
  rw [World.exceptionText, hw.message he hm, he.cls, Option.map_some]

theorem reportDebug (hw : w.Mirrors ρ w') (object : String) {e e' : Exception} (he : Like ρ e e') {s : String}
    (hs : w.reportDebug object e = some s) : w'.reportDebug object e' = some s := by
  obtain ⟨d, hd, rfl⟩ := Option.map_eq_some_iff.mp hs
  rw [World.reportDebug, hw.debug (.exception he) hd, Option.map_some]

end World.Mirrors

/-! ## Pictures -/

theorem mapM_some_of_forall₂ {α β : Type} {R : α → α → Prop} {f f' : α → Option β}
    (h : ∀ a a', R a a' → ∀ b, f a = some b → f' a' = some b) {as as' : List α} (has : List.Forall₂ R as as')
    {bs : List β} (hbs : as.mapM f = some bs) : as'.mapM f' = some bs := by
  induction has generalizing bs with
  | nil => exact hbs
  | cons ha _ ih =>
    simp only [List.mapM_cons, Option.bind_eq_bind, Option.bind_eq_some_iff] at hbs ⊢
    obtain ⟨b, hb, bs', hbs', heq⟩ := hbs
    exact ⟨b, h _ _ ha b hb, bs', ih hbs', heq⟩

theorem Like.picture {ρ : Likeness P} {t t' : Traceback} (ht : Like ρ t t') : t'.picture = t.picture := by
  have entry {x x' : TracebackEntry} (hx : x.Like ρ.toPairing x') : (x'.name, x'.line) = (x.name, x.line) := by
    rw [hx.name, hx.line]
  have rest {xs xs' : List TracebackEntry} (hxs : List.Forall₂ (TracebackEntry.Like ρ.toPairing) xs xs') :
      xs'.map (fun x => (x.name, x.line)) = xs.map fun x => (x.name, x.line) := by
    induction hxs with
    | nil => rfl
    | cons hx _ ih => rw [List.map_cons, List.map_cons, entry hx, ih]
  unfold Traceback.picture Traceback.entries
  rw [List.map_cons, List.map_cons, entry ht.head, rest ht.tail]

theorem Like.picture? {ρ : Likeness P} {t t' : Option Traceback} (ht : Like ρ t t') :
    t'.map (·.picture) = t.map (·.picture) := by
  cases ht with
  | none => rfl
  | some ht => exact congrArg Option.some (Like.picture (L := L) ht)

namespace World.Mirrors

variable {ρ : Likeness P} {w w' : World L}

/-- An exception looks alike if its arguments do, and its cause and its context. -/
theorem exceptionPicture? (hw : w.Mirrors ρ w') {part part' : Value → Option Picture}
    (hpart : ∀ v v', Like ρ v v' → ∀ p, part v = some p → part' v' = some p)
    {link link' : Exception → Option Picture}
    (hlink : ∀ e e', Like ρ e e' → ∀ p, link e = some p → link' e' = some p) {e e' : Exception} (he : Like ρ e e')
    {p : Picture} (hp : w.exceptionPicture? part link e = some p) :
    w'.exceptionPicture? part' link' e' = some p := by
  have hr := hw.exception he
  simp only [World.exceptionPicture?, Option.bind_eq_bind, Option.bind_eq_some_iff] at hp ⊢
  obtain ⟨text, htext, args, hargs, cause, hcause, context, hcontext, heq⟩ := hp
  cases heq
  refine ⟨text, hw.exceptionText he htext, args, mapM_some_of_forall₂ hpart hr.args hargs, cause, ?_, context, ?_, ?_⟩
  · rcases hr.cause.absent_or with ⟨h, h'⟩ | ⟨x, x', h, h', hx⟩ <;> rw [h] at hcause <;> rw [h']
    · exact hcause
    · obtain ⟨q, hq, rfl⟩ := Option.map_eq_some_iff.mp hcause
      exact congrArg (Option.map some) (hlink x x' hx q hq)
  · rcases hr.context.absent_or with ⟨h, h'⟩ | ⟨x, x', h, h', hx⟩ <;> rw [h] at hcontext <;> rw [h']
    · exact hcontext
    · obtain ⟨q, hq, rfl⟩ := Option.map_eq_some_iff.mp hcontext
      exact congrArg (Option.map some) (hlink x x' hx q hq)
  · rw [he.cls, hr.suppressContext, Like.picture? hr.traceback]
    rfl

theorem valuePicture? (hw : w.Mirrors ρ w') {link link' : Nat → Exception → Option Picture}
    (hlink : ∀ n e e', Like ρ e e' → ∀ p, link n e = some p → link' n e' = some p) (levels : Nat) {v v' : Value}
    (hv : Like ρ v v') {p : Picture} (hp : w.valuePicture? link levels v = some p) :
    w'.valuePicture? link' levels v' = some p := by
  induction levels generalizing v v' p with
  | zero => exact hp
  | succ levels ih =>
    have part (v v' : Value) (hv : Like ρ v v') (p : Picture) (hp : w.valuePicture? link levels v = some p) :
        w'.valuePicture? link' levels v' = some p := ih hv hp
    cases hv with
    | none | bool | int | float | exceptionClass => exact hp
    | str ht => simpa only [World.valuePicture?, ht.content] using hp
    | tuple _ hitems =>
      obtain ⟨ps, hps, rfl⟩ := Option.map_eq_some_iff.mp hp
      exact congrArg (Option.map Picture.tuple) (mapM_some_of_forall₂ part hitems hps)
    | exception he => exact hw.exceptionPicture? part (hlink _) he hp
    | traceback ht => simpa only [World.valuePicture?, Like.picture (L := L) ht] using hp
    | @cell c c' hc =>
      unfold World.valuePicture? at hp ⊢
      rcases (hw.cell (show Like ρ c c' from hc)).content.absent_or with ⟨h, h'⟩ | ⟨x, x', h, h', hx⟩ <;>
        simp only [h] at hp <;> simp only [h']
      · exact hp
      · obtain ⟨q, hq, rfl⟩ := Option.map_eq_some_iff.mp hp
        rw [ih hx hq, Option.map_some]
    | code hc => simpa only [World.valuePicture?, hc.name.content, hc.qualname.content, hc.firstLine,
        hc.generatorStop] using hp
    | frame hf => simpa only [World.valuePicture?, hf.code.qualname.content, hw.line hf] using hp
    | @coroutine c c' hc =>
      have hr := hw.coroutine (show Like ρ c c' from hc)
      simpa only [World.valuePicture?, Text.Like.content hr.qualname, hr.status] using hp
    | @wrapper x x' hx =>
      have hr := hw.coroutine (hw.wrapper (show Like ρ x x' from hx)).coroutine
      simpa only [World.valuePicture?, Text.Like.content hr.qualname] using hp

theorem linkPicture? (hw : w.Mirrors ρ w') (links levels : Nat) {e e' : Exception} (he : Like ρ e e') {p : Picture}
    (hp : w.linkPicture? links levels e = some p) : w'.linkPicture? links levels e' = some p := by
  induction links generalizing levels e e' p with
  | zero => exact hp
  | succ links ih =>
    exact hw.exceptionPicture? (fun _ _ hv _ => hw.valuePicture? (fun n _ _ he _ => ih n he) levels hv)
      (fun _ _ he _ => ih _ he) he hp

theorem picture (hw : w.Mirrors ρ w') {v v' : Value} (hv : Like ρ v v') {p : Picture} (hp : w.picture v = some p) :
    w'.picture v' = some p :=
  hw.valuePicture? (fun n _ _ he _ => hw.linkPicture? _ n he) _ hv hp

/-- What is written of a triple in one world can be written of it in the other one. -/
theorem pendingDebug (hw : w.Mirrors ρ w') {p p' : PendingException} (hp : Like ρ p p') {s : String}
    (hs : w.pendingDebug p = some s) : ∃ s', w'.pendingDebug p' = some s' := by
  unfold World.pendingDebug at hs ⊢
  rcases hp.value.absent_or with ⟨h, h'⟩ | ⟨e, e', h, h', he⟩ <;> rw [h] at hs <;> rw [h']
  · exact ⟨_, rfl⟩
  · obtain ⟨_, hdebug, -⟩ := Option.bind_eq_some_iff.mp hs
    obtain ⟨d, hd, rfl⟩ := Option.map_eq_some_iff.mp hdebug
    dsimp only
    rw [hw.debug (.exception he) hd]
    exact ⟨_, rfl⟩

/-- What is told of a triple in one world can be told of it in the other one. -/
theorem pendingData (hw : w.Mirrors ρ w') {p p' : PendingException} (hp : Like ρ p p') {d : Datum}
    (hd : w.pendingData p = some d) : ∃ d', w'.pendingData p' = some d' := by
  unfold World.pendingData at hd ⊢
  rcases hp.value.absent_or with ⟨h, h'⟩ | ⟨e, e', h, h', he⟩ <;> rw [h] at hd <;> rw [h']
  · obtain ⟨_, -, hd⟩ := Option.bind_eq_some_iff.mp hd
    obtain ⟨_, hdebug, -⟩ := Option.bind_eq_some_iff.mp hd
    obtain ⟨s', hs'⟩ := hw.pendingDebug hp hdebug
    rw [hs']
    exact ⟨_, rfl⟩
  · obtain ⟨_, hvalue, hd⟩ := Option.bind_eq_some_iff.mp hd
    obtain ⟨_, hdebug, -⟩ := Option.bind_eq_some_iff.mp hd
    obtain ⟨q, hq, rfl⟩ := Option.map_eq_some_iff.mp hvalue
    obtain ⟨s', hs'⟩ := hw.pendingDebug hp hdebug
    have hq' : w'.pendingValuePicture e' = some q :=
      hw.valuePicture? (fun n _ _ he _ => hw.linkPicture? _ n he) _ (.exception he) hq
    dsimp only
    rw [hq', hs']
    exact ⟨_, rfl⟩

/-- What is written of a transfer in one world can be written of it in the other one. -/
theorem transferDebug (hw : w.Mirrors ρ w') {t t' : Transfer} (ht : Like ρ t t') {s : String}
    (hs : w.transferDebug t = some s) : ∃ s', w'.transferDebug t' = some s' := by
  unfold World.transferDebug at hs ⊢
  obtain ⟨value, hvalue, hs⟩ := Option.bind_eq_some_iff.mp hs
  rcases ht.exception.absent_or with ⟨h, h'⟩ | ⟨p, p', h, h', hp⟩ <;> rw [h] at hs <;> rw [h', hw.debug ht.value hvalue]
  · exact ⟨_, rfl⟩
  · obtain ⟨_, hpending, -⟩ := Option.bind_eq_some_iff.mp hs
    obtain ⟨d, hd, rfl⟩ := Option.map_eq_some_iff.mp hpending
    obtain ⟨d', hd'⟩ := hw.pendingDebug hp hd
    dsimp only
    rw [hd']
    exact ⟨_, rfl⟩

/-- What is told of a value in one world can be told of it in the other one. -/
theorem describe (hw : w.Mirrors ρ w') {v v' : Value} (hv : Like ρ v v') {d : Datum} (hd : w.describe v = some d) :
    ∃ d', w'.describe v' = some d' := by
  unfold World.describe at hd ⊢
  obtain ⟨debug, hdebug, hd⟩ := Option.bind_eq_some_iff.mp hd
  obtain ⟨display, hdisplay, -⟩ := Option.bind_eq_some_iff.mp hd
  rw [hw.debug hv hdebug, hw.display hv hdisplay]
  exact ⟨_, rfl⟩

end World.Mirrors

/-- What is written in one world is written in the other one. -/
theorem Echoes.rendered {ρ : Likeness P} {text text' : World L → Option String}
    (h : ∀ w w', w.Mirrors ρ w' → ∀ s, text w = some s → text' w' = some s) :
    Echoes ρ (CoroutineEngine.rendered text) (CoroutineEngine.rendered text') := by
  constructor
  intro w w' hw
  refine ⟨?_⟩
  unfold CoroutineEngine.rendered
  split
  · next s hs =>
    rw [h w w' hw s hs]
    exact ⟨s, w', rfl, ρ, .refl ρ, hw, rfl⟩
  · trivial

/-- What is written in one world for nobody to read, is written somehow in the other one. -/
theorem Echoes.written {ρ : Likeness P} {text text' : World L → Option String}
    (h : ∀ w w', w.Mirrors ρ w' → ∀ s, text w = some s → ∃ s', text' w' = some s') :
    Echoes (α := Hidden String) ρ (CoroutineEngine.rendered text) (CoroutineEngine.rendered text') := by
  constructor
  intro w w' hw
  refine ⟨?_⟩
  unfold CoroutineEngine.rendered
  split
  · next s hs =>
    obtain ⟨s', hs'⟩ := h w w' hw s hs
    rw [hs']
    exact ⟨s', w', rfl, ρ, .refl ρ, hw, trivial⟩
  · trivial

/-- What can be shown in one world can be shown in the other one. -/
theorem Echoes.pictureOf {ρ : Likeness P} {v v' : Value} (hv : Like ρ v v') :
    Echoes (α := Hidden Picture) ρ (CoroutineEngine.pictureOf v : Effect L Picture) (CoroutineEngine.pictureOf v') := by
  constructor
  intro w w' hw
  refine ⟨?_⟩
  unfold CoroutineEngine.pictureOf
  split
  · next p hp =>
    rw [hw.picture hv hp]
    exact ⟨p, w', rfl, ρ, .refl ρ, hw, trivial⟩
  · trivial

/-- What is told of in one world is told of in the other one. -/
theorem Echoes.inspected {ρ : Likeness P} {data data' : World L → Option Datum}
    (h : ∀ w w', w.Mirrors ρ w' → ∀ d, data w = some d → ∃ d', data' w' = some d') :
    Echoes (α := Hidden Datum) ρ (CoroutineEngine.inspected data) (CoroutineEngine.inspected data') := by
  constructor
  intro w w' hw
  refine ⟨?_⟩
  unfold CoroutineEngine.inspected
  split
  · next d hd =>
    obtain ⟨d', hd'⟩ := h w w' hw d hd
    rw [hd']
    exact ⟨d', w', rfl, ρ, .refl ρ, hw, trivial⟩
  · trivial

end CoroutineEngine
