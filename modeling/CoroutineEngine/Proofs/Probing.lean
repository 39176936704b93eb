import CoroutineEngine.Proofs.Runs
import CoroutineEngine.Proofs.Unison

/-!
# What a coroutine awaits, checked at every step

A probed engine is the engine with a probe before every command of every body: unless a coroutine shows just
what it awaits, an alarm goes off. What it awaits is told by where the run is: nothing while its own body
executes a command, and the operand of its delegation from the first step of the delegate until the
delegation is over. While the coroutine is at rest, it is told by the fiber in its place.

Results:
* `awaiting_exact`: no alarm goes off, in no run; and what a coroutine shows while control is with its driver.
-/

namespace CoroutineEngine

variable {L : Language} {α β : Type}

/-! ## Definitions -/

/-- A coroutine that has a handle shows what it awaits: the given thing, or what can be told from its status
and the fiber in its place. -/
def World.Shows (w : World L) (i : CoroutineId) : Option (Option Value) → Prop
  | some awaited => (w.coroutine i).handles ≠ 0 → (w.coroutine i).awaiting = awaited
  | none => (w.coroutine i).handles ≠ 0 →
      ((w.coroutine i).status = .unused → (w.coroutine i).awaiting = none) ∧
        ((w.coroutine i).status = .running → ∀ f, (w.coroutine i).fiber = some f →
          ∀ v, f.stack.awaited? = some v → (w.coroutine i).awaiting = v)

open Classical in
/-- Lets an alarm go off unless a coroutine shows what it should. -/
noncomputable def probe (alarm : Effect L Unit) (i : CoroutineId) (awaited : Option (Option Value)) :
    Effect L Unit :=
  fun w => if w.Shows i awaited then (.ok (), w) else alarm w

namespace Probed

/-- As `CoroutineEngine.afterDelegate`; what the delegate has left is let go of on its own engine. -/
def afterDelegate (E : Engine L) (D : Value → Engine L) (context : Option Context) (a : Activation L)
    (d : Delegation) : Reply → Effect L (Progress L)
  | .ok v => pure (.ended (.suspended v { a with waiting := .delegate d }))
  | .error e => do
    if e.cls.isSubclassOf .stopIteration then
      let v ← stopValue e
      (D d.operand).owning (v :: d.delegate :: d.operand :: a.owned) ((D d.operand).releaseException e)
      endDelegation E context a d (.ok v)
    else
      endDelegation E context a d (.error e)

/-- As `CoroutineEngine.startDelegation`; the delegate is run on an engine that depends on what is awaited. -/
def startDelegation (E : Engine L) (D : Value → Engine L) (context : Option Context) (a : Activation L)
    (operand : Value) (target : Option String) : Effect L (Progress L) := do
  match ← .gets (·.driven? operand) with
  | none =>
    let e ← (CoroutineError.notAwaitable operand.typeName).raise
    E.owning (.exception e :: a.owned) (E.release operand)
    proceedRaising a e
  | some delegate =>
    retain operand
    let d : Delegation := ⟨operand, operand, target⟩
    let waiting := { a with waiting := .delegate d }
    let reply ← (D operand).owning waiting.owned do
      if let some k := context then
        if ← .gets (·.isAlive k.coroutine) then
          retain operand
          (D operand).releaseOption (← updateCoroutine k.coroutine fun r =>
            (r.awaiting, { r with awaiting := some operand }))
      send (D operand) delegate .none
    afterDelegate E D context { a with waiting := .start } d reply

/-- As `CoroutineEngine.passOn`, on the engine of what is awaited. -/
def passOn (E : Engine L) (D : Value → Engine L) (context : Option Context) (a : Activation L)
    (d : Delegation) (t : Transfer) : Effect L (Progress L) := do
  let waiting := { a with waiting := .delegate d }
  match ← .gets (·.driven? d.delegate) with
  | none =>
    (D d.operand).releaseAll t.owned
    endDelegation E context a d (.ok .none)
  | some delegate =>
    match ← (D d.operand).owning waiting.owned (t.deliver (D d.operand)) with
    | .ok v =>
      afterDelegate E D context a d (← (D d.operand).owning waiting.owned (send (D d.operand) delegate v))
    | .error e =>
      if e.cls.isSubclassOf .generatorExit then
        match ← (D d.operand).owning (.exception e :: waiting.owned) (close (D d.operand) delegate) with
        | .ok v =>
          (D d.operand).owning (.exception e :: waiting.owned) ((D d.operand).release v)
          endDelegation E context a d (.error e)
        | .error other =>
          (D d.operand).owning (.exception other :: waiting.owned) ((D d.operand).releaseException e)
          endDelegation E context a d (.error other)
      else
        afterDelegate E D context a d
          (← (D d.operand).owning waiting.owned (throwException (D d.operand) delegate e))

/-- As `CoroutineEngine.execute`, on the engine of what is awaited while the body delegates. -/
def execute (E : Engine L) (D : Value → Engine L) (context : Option Context) (a : Activation L) :
    Command L.Script → Effect L (Progress L)
  | .await value target => do
    startDelegation E D context a (← E.owning a.owned (evaluate E ⟨context, a.locals⟩ value)) target
  | command => CoroutineEngine.execute E context a command

/-- As `CoroutineEngine.proceed`, with a probe before every command. -/
def proceed (check : Effect L Unit) (E : Engine L) (D : Value → Engine L) (context : Option Context) :
    Nat → Activation L → Answer → Effect L (Exit L)
  | 0, _, _ => .stop
  | fuel + 1, a, answer => do
    .tick
    check
    let (command, state) := L.next a.state answer
    match ← execute E D context { a with state } command with
    | .ended exit => return exit
    | .next a answer => proceed check E D context fuel a answer

/-- As `CoroutineEngine.proceedFrom`. -/
def proceedFrom (check : Effect L Unit) (E : Engine L) (D : Value → Engine L) (context : Option Context)
    (fuel : Nat) : Progress L → Effect L (Exit L)
  | .ended exit => pure exit
  | .next a answer => proceed check E D context fuel a answer

/-- As `CoroutineEngine.runBody`. -/
def runBody (check : Effect L Unit) (E : Engine L) (D : Value → Engine L) (context : Option Context)
    (fuel : Nat) (a : Activation L) (t : Transfer) : Effect L (Exit L) := do
  match a.waiting with
  | .start =>
    E.owning a.owned (E.releaseAll t.owned)
    proceed check E D context fuel a .start
  | .delivery target =>
    let reply ← E.owning a.owned (t.deliver E)
    proceedFrom check E D context fuel (← proceedReply E { a with waiting := .start } target reply)
  | .delegate d =>
    proceedFrom check E D context fuel (← passOn E D context { a with waiting := .start } d t)

end Probed

/-- The engine up to a depth of nesting, each level under a watch, with probes in all bodies. What a
coroutine should show is given; within its own body it is told by the body. -/
noncomputable def Engine.probed (W : Watch) (alarm : Effect L Unit) (i : CoroutineId) :
    Nat → Option (Option Value) → Engine L
  | 0, _ => .halted
  | n + 1, shown =>
    Engine.under W
      { release := releaseHandle (probed W alarm i n shown)
        run := fun k a t =>
          if isBodyOf (some i) k then
            Probed.runBody (probe alarm i (some none)) (probed W alarm i n (some none))
              (fun operand => probed W alarm i n (some (some operand))) k n a t
          else
            Probed.runBody (probe alarm i shown) (probed W alarm i n shown)
              (fun _ => probed W alarm i n shown) k n a t }

/-- What the body of a coroutine delegates to, as far as its status and the fiber in its place tell. -/
def CoroutineRecord.delegated (r : CoroutineRecord L) : Option Value :=
  match r.status, r.fiber with
  | .running, some f => f.stack.awaited?.getD none
  | _, _ => none

/-- The fiber of a started coroutine is in its place, and the coroutine shows what its body delegates to. -/
def CoroutineRecord.IsExact (r : CoroutineRecord L) : Prop :=
  r.handles ≠ 0 → (r.status = .running → r.fiber ≠ none) ∧ r.awaiting = r.delegated

/-- What a coroutine shows that it awaits is exact in runs from a world.

* `silent`: the engine is the probed engine with an alarm that does nothing.
* `unheard`: whatever the alarm does, it does not go off, at no command of any body. While the body of the
  coroutine executes a command it awaits nothing, until the operand of its delegation is asked for the first
  value; and it awaits that until the delegation is over, and what it ends with is let go of.
* `rest`: at every moment at which the fiber is in its place, the coroutine shows what the fiber waits for.
* `driven`: between the requests of a driver the coroutine shows just what its body has delegated to, and
  nothing if it has not started, has yielded, or is finished, whichever way its body was left.
* `others`: the same after what another client does, a body, a finalizer or a hook, if it was so before.
* `left`: once its body is left, the coroutine shows what the body waits for, while the driver is put back. -/
structure AwaitsExactly (W : Watch) (i : CoroutineId) (w : World L) : Prop where
  silent : ∀ n shown, Engine.probed W (pure ()) i n shown = .watched L W n
  unheard : ∀ alarm n v, Reaches W w v → ∀ {α : Type} {x : Procedure L α}, Client none x →
    x (.probed W alarm i n none) v = x (.watched L W n) v
  rest : ∀ v, Moment W w v → v.Shows i none
  driven : W.strict = true → ∀ v, Reaches W w v → (v.coroutine i).IsExact
  others : W.strict = true → ∀ v, Moment W w v → (v.coroutine i).IsExact →
    ∀ {α : Type} {k : Option CoroutineId} {x : Procedure L α} (n : Nat), k ≠ some i → Client k x →
      (x (.watched L W n) v).1 ≠ .stop → ((x (.watched L W n) v).2.coroutine i).IsExact
  left : ∀ alarm n v (k : Context) a t exit u frame driver, v.Orderly → (v.coroutine i).IsCandid →
    k.coroutine = i → (v.coroutine i).IsAbroad a.waiting.awaited →
    (Engine.watched L W n).run (some k) a t v = (.ok exit, u) →
      leaveSwitch (.probed W alarm i n (some exit.awaited)) i frame driver false u =
        leaveSwitch (.watched L W n) i frame driver false u

/-! ## Helpers -/

namespace Probed

/-! ### Without an alarm -/

variable (E : Engine L) (context : Option Context)

theorem execute_same (a : Activation L) (command : Command L.Script) :
    execute E (fun _ => E) context a command = CoroutineEngine.execute E context a command := by
  cases command <;> rfl

theorem proceed_silent (fuel : Nat) (a : Activation L) (answer : Answer) :
    proceed (pure ()) E (fun _ => E) context fuel a answer =
      CoroutineEngine.proceed E context fuel a answer := by
  induction fuel generalizing a answer with
  | zero => rfl
  | succ fuel ih =>
    simp only [proceed, CoroutineEngine.proceed, execute_same, ih]
    rfl

theorem runBody_silent (fuel : Nat) (a : Activation L) (t : Transfer) :
    runBody (pure ()) E (fun _ => E) context fuel a t = CoroutineEngine.runBody E context fuel a t := by
  have go (p : Progress L) : proceedFrom (pure ()) E (fun _ => E) context fuel p =
      CoroutineEngine.proceedFrom E context fuel p := by
    cases p with
    | ended exit => rfl
    | next a answer => exact proceed_silent E context fuel a answer
  unfold runBody CoroutineEngine.runBody
  cases a.waiting with
  | start => simp only [proceed_silent]
  | delivery target => simp only [go]
  | delegate d =>
    simp only [go]
    rfl

end Probed

variable {s : Prop} {i : CoroutineId} {m : Phase} {w v : World L} {E E' : Engine L} {D : Value → Engine L}
  {check : Effect L Unit}

/-- What a body awaits after a command. -/
def Progress.awaited : Progress L → Option Value
  | .next _ _ => none
  | .ended exit => exit.awaited

/-- A body that is out in a world `w` shows after some commands what it awaits. -/
def Goes (strict : Prop) (i : CoroutineId) (w : World L) : Post L (Progress L) :=
  Returns i w (fun p => Found strict i (.away p.awaited)) fun v => ∃ awaited, Found strict i (.away awaited) v

/-- A probe that is passed makes no difference. -/
theorem Accords.probed {x x' : Effect L α} {Q : Post L α} (hcheck : check w = (.ok (), w))
    (hx : Accords x x' w Q) : Accords x (check >>= fun _ => x') w Q :=
  ⟨(Effect.bind_ok hcheck _).trans hx.same, hx.meets⟩

theorem showing_stop {may : Prop} : (showing L may s i m).Kept (.stop : Effect L α) := fun w hw =>
  ⟨⟨hw.candid, .refl i w⟩⟩

namespace Probed

/-! ### Other bodies -/

section

variable {context : Option Context} (hcheck : ∀ w, Found s i m w → check w = (.ok (), w))
  (hE : Attuned s i m E E') (hk : context.map (·.coroutine) ≠ some i)

include hcheck hE hk

theorem proceed_other (fuel : Nat) (a : Activation L) (answer : Answer) :
    (showing L True s i m).Accord (CoroutineEngine.proceed E context fuel a answer)
      (proceed check E' (fun _ => E') context fuel a answer) := by
  induction fuel generalizing a answer with
  | zero => exact .plain showing_stop
  | succ fuel ih =>
    refine .bind (.plain (showing_quiet tick_still.quiet)) fun _ v hv => .probed (hcheck v hv) ?_
    simp only [execute_same]
    refine (Law.Accord.bind (hE.client hk (Client.execute _ _)) fun p => ?_) v hv
    cases p with
    | next a answer => exact ih a answer
    | ended exit => exact .plain (showing_sure (.pure _))

theorem runBody_other (fuel : Nat) (a : Activation L) (t : Transfer) :
    (showing L True s i m).Accord (CoroutineEngine.runBody E context fuel a t)
      (runBody check E' (fun _ => E') context fuel a t) := by
  have go (p : Progress L) : (showing L True s i m).Accord (CoroutineEngine.proceedFrom E context fuel p)
      (proceedFrom check E' (fun _ => E') context fuel p) := by
    cases p with
    | ended exit => exact .plain (showing_sure (.pure _))
    | next a answer => exact proceed_other hcheck hE hk fuel a answer
  unfold runBody CoroutineEngine.runBody
  cases a.waiting with
  | start =>
    exact .bind (.owning hE.spoken _ (hE.releaseAll _).spoken) fun _ => proceed_other hcheck hE hk fuel a .start
  | delivery target =>
    refine .bind (.owning hE.spoken _ (hE.client hk (Client.deliver t))) fun reply => ?_
    exact .bind (hE.client hk (Client.proceedReply _ target reply)) go
  | delegate d => exact .bind (hE.client hk (Client.passOn _ d t)) go

end

/-! ### The body of the coroutine -/

theorem proceedReply_awaited (a : Activation L) (target : Option String) (r : Reply) :
    Meets (proceedReply E a target r) w (.promise fun p _ => p.awaited = none) := by
  cases r with
  | ok v => exact .then_ok fun _ _ _ => .pure rfl
  | error e => exact .pure rfl

/-- After a command that is no delegation, the body awaits nothing. -/
theorem execute_awaited {context : Option Context} (a : Activation L) {command : Command L.Script}
    (hc : ∀ e target, command ≠ .await e target) :
    Meets (CoroutineEngine.execute E context a command) w (.promise fun p _ => p.awaited = none) := by
  have last (a : Activation L) (r : Reply) : Meets (endBody E a r) w (.promise fun p _ => p.awaited = none) :=
    .then_ok fun _ _ _ => .pure rfl
  cases command with
  | yield e target => exact .then_ok fun _ _ _ => .pure rfl
  | await e target => exact absurd rfl (hc e target)
  | perform op target =>
    refine .then_ok fun r v _ => ?_
    rcases r with e | x | d
    · exact .pure rfl
    · exact .then_ok fun _ _ _ => .pure rfl
    · dsimp only
      split
      · exact .then_ok fun _ _ _ => .pure rfl
      · exact .pure rfl
  | test e => exact .then_ok fun _ _ _ => .then_ok fun _ _ _ => .pure rfl
  | caught e => exact .then_ok fun _ _ _ => .then_ok fun _ _ _ => .pure rfl
  | hold e => exact .then_ok fun _ _ _ => .pure rfl
  | discard depth => exact .then_ok fun _ _ _ => .pure rfl
  | bind target => exact .then_ok fun _ _ _ => .then_ok fun _ _ _ => .pure rfl
  | enter =>
    unfold CoroutineEngine.execute
    cases heldException? a with
    | none => exact .pure rfl
    | some e => exact .then_ok fun _ _ _ => .pure rfl
  | leave depth => exact .then_ok fun _ _ _ => .then_ok fun _ _ _ => .pure rfl
  | raise value arg => exact .then_ok fun _ _ _ => .pure rfl
  | pass => exact .pure rfl
  | finish => exact last _ _
  | fail =>
    unfold CoroutineEngine.execute
    cases heldException? a with
    | none => exact last _ _
    | some e => exact last _ _
  | panic message => exact .owning_ok (x := .panic message) ⟨trivial⟩

/-- A command after which nothing is awaited. -/
theorem goes_of_showing {x x' : Effect L (Progress L)} (hx : (showing L True s i (.away none)).Accord x x')
    (hp : Meets x v (.promise fun p _ => p.awaited = none)) (hv : Found s i (.away none) v)
    (ho : Outlasts i w v) : Accords x x' v (Goes s i w) := by
  refine ⟨(hx v hv).same, ((hx v hv).meets.and hp).mono ?_ ?_ ?_⟩
  · rintro p u ⟨⟨hu, ho'⟩, hp⟩
    exact ⟨show Found s i (.away p.awaited) u from (show p.awaited = none from hp).symm ▸ hu, ho.trans ho'⟩
  · exact fun u h => ⟨⟨none, h.1.2.1⟩, ho.trans h.1.2.2⟩
  · exact fun u h => ⟨h.1.1, ho.trans h.1.2⟩

section

variable {k : Context}

/-- When a delegation is over, nothing is awaited. -/
theorem endDelegation_own (hE : Attuned s i (.away none) E E') (hk : k.coroutine = i) {e : Option Value}
    (a : Activation L) (d : Delegation) (result : Reply)
    (hv : Found s i (.away e) v) (ho : Outlasts i w v) :
    Accords (endDelegation E (some k) a d result) (endDelegation E' (some k) a d result) v (Goes s i w) := by
  subst hk
  have noted : Accords
      (do
        if ← .gets (·.isAlive k.coroutine) then
          E.releaseOption (← updateCoroutine k.coroutine fun r => (r.awaiting, { r with awaiting := none }))
        else pure ())
      (do
        if ← .gets (·.isAlive k.coroutine) then
          E'.releaseOption (← updateCoroutine k.coroutine fun r => (r.awaiting, { r with awaiting := none }))
        else pure ()) v
      (Returns k.coroutine w (fun _ => Found s k.coroutine (.away none)) (Found s k.coroutine (.away none))) := by
    refine .then_gets ?_
    split
    · refine .then_update (.away none) hv hv.has ho
        (.of_running hv.fits.status fun _ f hf => absurd (hf.symm.trans hv.fits.fiber) (by simp))
        ⟨hv.fits.status, hv.fits.fiber, fun _ => rfl⟩ id fun u hu ho => ?_
      exact .of_showing (hE.releaseAll _) hu ho (fun _ _ h => h) fun _ _ h => h
    · rename_i hdead
      have hz : (v.coroutine k.coroutine).handles = 0 := by simpa [World.isAlive] using hdead
      exact .pure ⟨⟨hv.orderly, hv.candid, hv.fits.status, hv.fits.fiber, fun h => absurd hz h⟩, ho⟩
  refine .bind (.onPanic (noted.mono ?_ ?_ fun _ h => h))
  · rintro _ v₁ ⟨h₁, ho₁⟩
    refine .then_showing (.owning hE.release _ (hE.release _)) h₁ ho₁ (fun _ v₂ h₂ ho₂ => ?_) fun u _ hu => ⟨_, hu⟩
    refine .then_showing (.owning hE.release _ (hE.release _)) h₂ ho₂ (fun _ v₃ h₃ ho₃ => ?_) fun u _ hu => ⟨_, hu⟩
    exact goes_of_showing (hE.client (k := none) (by simp) (Client.proceedReply _ _ result))
      (proceedReply_awaited _ _ _) h₃ ho₃
  · rintro v₁ ⟨h₁, ho₁⟩
    exact .cleanup (.of_showing (hE.releaseAll _) h₁ ho₁ (fun _ u hu => ⟨_, hu⟩) fun _ _ hu => hu)
      fun _ hu => hu.candid

variable (hE : Attuned s i (.away none) E E') (hD : ∀ v, Attuned s i (.away (some v)) E (D v))
  (hk : k.coroutine = i)

include hE hD hk

/-- The answer of a delegate: what it yields is handed on, and otherwise the delegation is over. -/
theorem afterDelegate_own (a : Activation L) (d : Delegation) (r : Reply)
    (hv : Found s i (.away (some d.operand)) v) (ho : Outlasts i w v) :
    Accords (CoroutineEngine.afterDelegate E (some k) a d r) (afterDelegate E' D (some k) a d r) v
      (Goes s i w) := by
  cases r with
  | ok x => exact .pure ⟨hv, ho⟩
  | error e =>
    unfold CoroutineEngine.afterDelegate afterDelegate
    dsimp only
    split
    · refine .then_showing (.plain (showing_quiet (stopValue_quiet e))) hv ho (fun x v₁ h₁ ho₁ => ?_)
        fun u _ hu => ⟨_, hu⟩
      refine .then_showing (.owning (hD _).release _ ((hD _).release _)) h₁ ho₁ (fun _ v₂ h₂ ho₂ => ?_)
        fun u _ hu => ⟨_, hu⟩
      exact endDelegation_own hE hk a d _ h₂ ho₂
    · exact endDelegation_own hE hk a d _ hv ho

/-- While a delegate is asked for its first value, the coroutine shows what is awaited. -/
theorem startDelegation_own (a : Activation L) (operand : Value) (target : Option String)
    (hv : Found s i (.away none) v) (ho : Outlasts i w v) :
    Accords (CoroutineEngine.startDelegation E (some k) a operand target)
      (startDelegation E' D (some k) a operand target) v (Goes s i w) := by
  refine .then_gets ?_
  cases v.driven? operand with
  | none =>
    refine goes_of_showing (hE.client (k := none) (by simp) (.bind (.still (raise_still _)) fun e =>
      .bind (.owning _ (.release _)) fun _ => .pure _)) ?_ hv ho
    exact .then_ok fun _ _ _ => .then_ok fun _ _ _ => .pure rfl
  | some delegate =>
    have hi := hk
    subst hi
    refine .then_showing (.plain (showing_quiet (retain_quiet operand))) hv ho (fun _ v₁ h₁ ho₁ => ?_)
      fun u _ hu => ⟨_, hu⟩
    have asked {u : World L} (hu : Found s k.coroutine (.away (some operand)) u) (ho : Outlasts k.coroutine w u) :
        Accords (send E delegate .none) (send (D operand) delegate .none) u
          (Returns k.coroutine w (fun _ => Found s k.coroutine (.away (some operand)))
            (Found s k.coroutine (.away (some operand)))) :=
      .of_showing ((hD operand).client (k := none) (by simp) (Client.send delegate .none)) hu ho
        (fun _ _ h => h) fun _ _ h => h
    have shown : Accords
        (do
          if ← .gets (·.isAlive k.coroutine) then
            retain operand
            E.releaseOption (← updateCoroutine k.coroutine fun r =>
              (r.awaiting, { r with awaiting := some operand }))
          send E delegate .none)
        (do
          if ← .gets (·.isAlive k.coroutine) then
            retain operand
            (D operand).releaseOption (← updateCoroutine k.coroutine fun r =>
              (r.awaiting, { r with awaiting := some operand }))
          send (D operand) delegate .none) v₁
        (Returns k.coroutine w (fun _ => Found s k.coroutine (.away (some operand)))
          (Found s k.coroutine (.away (some operand)))) := by
      refine .then_gets ?_
      split
      · refine .then_eq rfl ?_
        have hpass := Passes.of_undisturbed ((retain_quiet operand) v₁).toUndisturbed (i := k.coroutine)
        have h₂ := h₁.passes hpass
        refine .then_update (.away (some operand)) h₂ h₂.has (ho₁.trans hpass.outlasts)
          (.of_running h₂.fits.status fun _ f hf => absurd (hf.symm.trans h₂.fits.fiber) (by simp))
          ⟨h₂.fits.status, h₂.fits.fiber, fun _ => rfl⟩ id fun v₃ h₃ ho₃ => ?_
        exact .then_showing ((hD operand).releaseAll _) h₃ ho₃ (fun _ _ hu ho => asked hu ho) fun _ _ hu => hu
      · rename_i hdead
        have hz : (v₁.coroutine k.coroutine).handles = 0 := by simpa [World.isAlive] using hdead
        exact asked ⟨h₁.orderly, h₁.candid, h₁.fits.status, h₁.fits.fiber, fun h => absurd hz h⟩ ho₁
    refine .bind (.onPanic (shown.mono ?_ ?_ fun _ h => h))
    · rintro reply v₂ ⟨h₂, ho₂⟩
      exact afterDelegate_own hE hD hk _ ⟨operand, operand, target⟩ reply h₂ ho₂
    · rintro v₂ ⟨h₂, ho₂⟩
      exact .cleanup (.of_showing ((hD operand).releaseAll _) h₂ ho₂ (fun _ u hu => ⟨_, hu⟩) fun _ _ hu => hu)
        fun _ hu => hu.candid

/-- So it does while something is passed on to the delegate. -/
theorem passOn_own (a : Activation L) (d : Delegation) (t : Transfer)
    (hv : Found s i (.away (some d.operand)) v) (ho : Outlasts i w v) :
    Accords (CoroutineEngine.passOn E (some k) a d t) (passOn E' D (some k) a d t) v (Goes s i w) := by
  have client {γ : Type} {x : Procedure L γ} (hx : Client none x) :
      (showing L True s i (.away (some d.operand))).Accord (x E) (x (D d.operand)) :=
    (hD d.operand).client (by simp) hx
  have owned {γ : Type} (vs : List Value) {x : Procedure L γ} (hx : Client none x) :
      (showing L True s i (.away (some d.operand))).Accord (E.owning vs (x E))
        ((D d.operand).owning vs (x (D d.operand))) := client (.owning vs hx)
  refine .then_gets ?_
  cases v.driven? d.delegate with
  | none =>
    refine .then_showing (client (.releaseAll t.owned)) hv ho (fun _ v₁ h₁ ho₁ => ?_) fun u _ hu => ⟨_, hu⟩
    exact endDelegation_own hE hk a d _ h₁ ho₁
  | some delegate =>
    refine .then_showing (owned _ (Client.deliver t)) hv ho (fun r v₁ h₁ ho₁ => ?_) fun u _ hu => ⟨_, hu⟩
    cases r with
    | ok x =>
      refine .then_showing (owned _ (Client.send delegate x)) h₁ ho₁ (fun r v₂ h₂ ho₂ => ?_) fun u _ hu => ⟨_, hu⟩
      exact afterDelegate_own hE hD hk a d r h₂ ho₂
    | error e =>
      dsimp only
      split
      · refine .then_showing (owned _ (Client.close delegate)) h₁ ho₁ (fun r v₂ h₂ ho₂ => ?_)
          fun u _ hu => ⟨_, hu⟩
        cases r with
        | ok x =>
          refine .then_showing (owned _ (.release x)) h₂ ho₂ (fun _ v₃ h₃ ho₃ => ?_) fun u _ hu => ⟨_, hu⟩
          exact endDelegation_own hE hk a d _ h₃ ho₃
        | error other =>
          refine .then_showing (owned _ (.releaseException e)) h₂ ho₂ (fun _ v₃ h₃ ho₃ => ?_)
            fun u _ hu => ⟨_, hu⟩
          exact endDelegation_own hE hk a d _ h₃ ho₃
      · refine .then_showing (owned _ (Client.throwException delegate e)) h₁ ho₁ (fun r v₂ h₂ ho₂ => ?_)
          fun u _ hu => ⟨_, hu⟩
        exact afterDelegate_own hE hD hk a d r h₂ ho₂

/-- A command of the body. -/
theorem execute_own (a : Activation L) (command : Command L.Script) (hv : Found s i (.away none) v)
    (ho : Outlasts i w v) :
    Accords (CoroutineEngine.execute E (some k) a command) (execute E' D (some k) a command) v (Goes s i w) := by
  have plain {command : Command L.Script} (hc : ∀ e target, command ≠ .await e target) :
      Accords (CoroutineEngine.execute E (some k) a command) (CoroutineEngine.execute E' (some k) a command) v
        (Goes s i w) :=
    goes_of_showing (hE.client (k := none) (by simp) (Client.executePlain a hc)) (execute_awaited a hc) hv ho
  cases command with
  | await e target =>
    refine .then_showing (hE.client (k := none) (by simp) (.owning _ (Client.evaluate _ e))) hv ho
      (fun operand v₁ h₁ ho₁ => ?_) fun u _ hu => ⟨_, hu⟩
    exact startDelegation_own hE hD hk a operand target h₁ ho₁
  | _ => exact plain nofun

variable (hcheck : ∀ w, Found s i (.away none) w → check w = (.ok (), w))

include hcheck

/-- Command by command: before each one the coroutine shows that nothing is awaited. -/
theorem proceed_own (fuel : Nat) (a : Activation L) (answer : Answer) (hv : Found s i (.away none) v)
    (ho : Outlasts i w v) :
    Accords (CoroutineEngine.proceed E (some k) fuel a answer) (proceed check E' D (some k) fuel a answer) v
      (Leaves s i w) := by
  induction fuel generalizing a answer v with
  | zero => exact ⟨rfl, ⟨⟨hv.candid, ho⟩⟩⟩
  | succ fuel ih =>
    refine .then_showing (.plain (showing_quiet tick_still.quiet)) hv ho (fun _ v₁ h₁ ho₁ => ?_)
      fun u _ hu => ⟨_, hu⟩
    refine .probed (hcheck v₁ h₁) ?_
    refine .then_returns (execute_own hE hD hk _ _ h₁ ho₁) (fun p v₂ h₂ ho₂ => ?_) fun _ h => h
    cases p with
    | next a answer => exact ih a answer h₂ ho₂
    | ended exit => exact .pure ⟨h₂, ho₂⟩

theorem proceedFrom_own (fuel : Nat) (p : Progress L) (hv : Found s i (.away p.awaited) v)
    (ho : Outlasts i w v) :
    Accords (CoroutineEngine.proceedFrom E (some k) fuel p) (proceedFrom check E' D (some k) fuel p) v
      (Leaves s i w) := by
  cases p with
  | ended exit => exact .pure ⟨hv, ho⟩
  | next a answer => exact proceed_own hE hD hk hcheck fuel a answer hv ho

/-- The body goes on while the coroutine shows what it waits for. -/
theorem runBody_own (fuel : Nat) (a : Activation L) (t : Transfer)
    (hv : Found s i (.away a.waiting.awaited) v) :
    Accords (CoroutineEngine.runBody E (some k) fuel a t) (runBody check E' D (some k) fuel a t) v
      (Leaves s i v) := by
  unfold runBody CoroutineEngine.runBody
  have ho := Outlasts.refl i v
  cases hw : a.waiting with
  | start =>
    rw [hw] at hv
    refine .then_showing (.owning hE.release _ (hE.releaseAll _)) hv ho (fun _ v₁ h₁ ho₁ => ?_) fun u _ hu => ⟨_, hu⟩
    exact proceed_own hE hD hk hcheck fuel a .start h₁ ho₁
  | delivery target =>
    rw [hw] at hv
    refine .then_showing (hE.client (k := none) (by simp) (.owning _ (Client.deliver t))) hv ho
      (fun reply v₁ h₁ ho₁ => ?_) fun u _ hu => ⟨_, hu⟩
    refine .then_returns (goes_of_showing (hE.client (k := none) (by simp) (Client.proceedReply _ target reply))
      (proceedReply_awaited _ _ _) h₁ ho₁) (fun p v₂ h₂ ho₂ => ?_) fun _ h => h
    exact proceedFrom_own hE hD hk hcheck fuel p h₂ ho₂
  | delegate d =>
    rw [hw] at hv
    refine .then_returns (passOn_own hE hD hk _ d t hv ho) (fun p v₁ h₁ ho₁ => ?_) fun _ h => h
    exact proceedFrom_own hE hD hk hcheck fuel p h₁ ho₁

end

end Probed

/-! ### Engines -/

/-- Under a watch, two engines do the same if they do without it. -/
theorem Law.Accord.under_release {W : Watch} (hW : s → W.strict = true) {E E' : Engine L} {x : Value}
    (h : (showing L True s i m).Accord (E.release x) (E'.release x)) :
    (showing L (¬ s) s i m).Accord ((E.under W).release x) ((E'.under W).release x) := by
  intro w hw
  have hx := h w hw
  refine ⟨by simp only [Engine.under, hx.same], .under_release (hx.meets.mono ?_ ?_ fun _ h => h)⟩
  · exact fun _ u hu => ⟨⟨hu.1.candid, hu.2⟩, fun _ => hu⟩
  · exact fun u hu => ⟨⟨hu.2.1.candid, hu.2.2⟩, fun _ hs => ⟨fun h => by simp [hW h] at hs, hu.2⟩⟩

theorem Accords.under_run {W : Watch} {E E' : Engine L} {k : Option Context} {a : Activation L} {t : Transfer}
    {Q : Post L (Exit L)} (ok : ∀ exit u, Q.ok exit u → Q.stop u) (panic : ∀ u, Q.panic u → Q.stop u)
    (h : Accords (E.run k a t) (E'.run k a t) w Q) :
    Accords ((E.under W).run k a t) ((E'.under W).run k a t) w Q :=
  ⟨by simp only [Engine.under, h.same], .under_run (h.meets.mono (fun exit u hu => ⟨ok exit u hu, fun _ => hu⟩)
    (fun u hu => ⟨panic u hu, fun _ _ => hu⟩) fun _ h => h)⟩

theorem Found.shows_resting (h : Found s i m w) : w.Shows i none := fun hh =>
  ⟨h.candid.idle hh, h.candid.waiting hh⟩

theorem Found.shows {e : Option Value} (h : Found s i (.away e) w) : w.Shows i (some e) := h.fits.shown

theorem probe_passed {alarm : Effect L Unit} {shown : Option (Option Value)} (h : w.Shows i shown) :
    probe alarm i shown w = (.ok (), w) := if_pos h

/-- One level above engines that do the same: the probes are passed wherever the coroutine shows what they ask
for. -/
theorem Attuned.level {W : Watch} (hW : s → W.strict = true) {alarm : Effect L Unit} {n : Nat}
    {shown : Option (Option Value)} (hE : Attuned s i m (.watched L W n) (.probed W alarm i n shown))
    (hshows : ∀ w : World L, Found s i m w → w.Shows i shown) :
    Concord s i m (.watched L W (n + 1)) (.probed W alarm i (n + 1) shown) where
  release x := .under_release hW (hE.releaseHandle x)
  run k a t hk := by
    intro w hw
    refine .under_run (fun _ _ h => ⟨h.1.candid, h.2⟩) (fun _ h => ⟨h.2.1.candid, h.2.2⟩) ?_
    show Accords (runBody _ k n a t) (ite _ _ _) w _
    rw [if_neg (by simp [hk])]
    refine Probed.runBody_other (fun w hw => probe_passed (hshows w hw)) hE ?_ n a t w hw
    cases k with
    | none => simp
    | some k =>
      simp only [isBodyOf, beq_eq_false_iff_ne] at hk
      exact Ne.symm hk

/-- A probed engine does what the engine does: at any place, if the probes are told by the record, and while
the fiber is out of its place, also if they are told what is awaited. -/
theorem probed_unison {W : Watch} (hW : s → W.strict = true) (alarm : Effect L Unit) (i : CoroutineId) (n : Nat) :
    Unison s i (.watched L W n) (.probed W alarm i n none) ∧
      ∀ e, Attuned s i (.away e) (.watched L W n) (.probed W alarm i n (some e)) := by
  induction n with
  | zero =>
    have concord (m : Phase) : Concord s i m (.halted : Engine L) .halted := by
      refine ⟨fun x => .plain fun w hw => ?_, fun _ _ _ _ => .plain showing_stop⟩
      show Meets (if x.isNone then pure () else .stop) w _
      split
      · exact .pure ⟨hw, .refl i w⟩
      · exact ⟨⟨hw.candid, .refl i w⟩⟩
    exact ⟨⟨concord, fun k a t w _ hw => ⟨rfl, ⟨⟨hw.candid, .refl i w⟩⟩⟩⟩, fun e => ⟨concord _, nofun⟩⟩
  | succ n ih =>
    obtain ⟨hU, hA⟩ := ih
    refine ⟨⟨fun m => (hU.attuned m).level hW fun w hw => hw.shows_resting, ?_⟩,
      fun e => ⟨(hA e).level hW fun w hw => hw.shows, nofun⟩⟩
    rintro k a t w hk hw
    refine .under_run (fun _ _ h => ⟨h.1.candid, h.2⟩) (fun _ h => ⟨h.1.choose_spec.candid, h.2⟩) ?_
    show Accords (runBody _ (some k) n a t) (ite _ _ _) w _
    rw [if_pos (by simp [isBodyOf, hk])]
    exact Probed.runBody_own (hA none) (fun v => hA (some v)) hk (fun w hw => probe_passed hw.shows) n a t hw

theorem probed_attuned (W : Watch) (alarm : Effect L Unit) (i : CoroutineId) (n : Nat) :
    Unison (W.strict = true) i (.watched L W n) (.probed W alarm i n none) ∧
      ∀ e, Attuned (W.strict = true) i (.away e) (.watched L W n) (.probed W alarm i n (some e)) :=
  probed_unison id alarm i n

/-! ### Runs -/

theorem World.fresh_found (i : CoroutineId) (clock : Nat) : Found s i .resting (World.fresh clock : World L) := by
  have hnew : ((World.fresh clock : World L).coroutine i).Newborn := by
    rw [World.coroutine_eq_default (Nat.zero_le _)]
    exact CoroutineRecord.newborn_default
  exact ⟨World.fresh_orderly clock, hnew.candid, fun _ _ =>
    ⟨fun hs => absurd (hnew.status.symm.trans hs) (by decide), fun hs => absurd (hnew.status.symm.trans hs) (by decide)⟩⟩

/-- Whatever other clients do keeps what a coroutine at rest shows. -/
theorem client_found (W : Watch) {k : Option CoroutineId} (hk : k ≠ some i) {x : Procedure L α} (hx : Client k x)
    (n : Nat) (hw : Found (W.strict = true) i .resting w) :
    Meets (x (.watched L W n)) w ((showing L True (W.strict = true) i .resting).post w) :=
  ((((probed_attuned W (pure ()) i n).1.attuned .resting).client hk hx) w hw).meets

theorem Meets.found {x : Effect L α} (h : Meets x w ((showing L True s i .resting).post w))
    (hstop : (x w).1 ≠ .stop) : Found s i .resting (x w).2 := by
  have hx := h.holds
  rcases hr : x w with ⟨_ | _ | _, u⟩ <;> rw [hr] at hx hstop
  · exact hx.1
  · exact hx.2.1
  · exact absurd rfl hstop

theorem Reaches.found {W : Watch} {clock : Nat} (h : Reaches W (World.fresh clock) v) (i : CoroutineId) :
    Found (W.strict = true) i .resting v := by
  induction h with
  | refl => exact World.fresh_found i clock
  | step n _ hx hstop ih => exact (client_found W (by simp) hx n ih).found hstop

theorem Moment.candid {W : Watch} {clock : Nat} (h : Moment W (World.fresh clock) v) (i : CoroutineId) :
    (v.coroutine i).IsCandid := by
  cases h with
  | @of w _ x n hv hx =>
    have hm := (client_found W (by simp) hx n (hv.found i)).holds
    rcases hr : x (.watched L W n) w with ⟨_ | _ | _, u⟩ <;> rw [hr] at hm
    · exact hm.1.candid
    · exact hm.2.1.candid
    · exact hm.1

/-- What a coroutine at rest shows is exact in strict runs. -/
theorem Found.exact {T : Terms} (h : Found s i .resting w) (hs : s) (hsound : (w.coroutine i).IsSound T) :
    (w.coroutine i).IsExact := by
  intro hh
  have hd := h.fits hs hh
  refine ⟨hd.started, ?_⟩
  unfold CoroutineRecord.delegated
  cases hst : (w.coroutine i).status with
  | unused => exact h.candid.idle hh hst
  | finished => exact hd.finished hst
  | running =>
    cases hf : (w.coroutine i).fiber with
    | none => exact absurd hf (hd.started hst)
    | some f =>
      obtain ⟨⟨a, ha⟩, -⟩ := hsound.fiber f hf hst
      have hawaited : f.stack.awaited? = some a.waiting.awaited := by rw [ha]; rfl
      simpa [hawaited] using h.candid.waiting hh hst f hf _ hawaited

theorem CoroutineRecord.IsExact.found {W : Watch} {clock : Nat} (h : (v.coroutine i).IsExact)
    (hv : Moment W (World.fresh clock) v) : Found s i .resting v := by
  refine ⟨(hv.keeps (World.fresh_lawful (W.terms i) i clock)).lawful.orderly, hv.candid i, fun _ hh =>
    ⟨fun hs => ?_, (h hh).1⟩⟩
  simpa [CoroutineRecord.delegated, hs] using (h hh).2

/-- Without an alarm, the probes do nothing. -/
theorem probed_silent (W : Watch) (i : CoroutineId) (n : Nat) (shown : Option (Option Value)) :
    Engine.probed W (pure ()) i n shown = .watched L W n := by
  have hpass (e : Option (Option Value)) : probe (pure ()) i e = (pure () : Effect L Unit) := by
    funext w
    unfold probe
    split <;> rfl
  induction n generalizing shown with
  | zero => rfl
  | succ n ih =>
    simp only [Engine.probed, ih, hpass, Probed.runBody_silent, ite_self]
    rfl

/-! ## What is awaited -/

/-- What a coroutine shows that it awaits is exact in all runs. -/
theorem awaiting_exact (W : Watch) (i : CoroutineId) (clock : Nat) :
    AwaitsExactly W i (World.fresh clock : World L) where
  silent n shown := probed_silent W i n shown
  unheard alarm n v hv _ _ hx :=
    ((((probed_attuned W alarm i n).1.attuned .resting).client (k := none) (by simp) hx) v (hv.found i)).same
  rest v hv hh := ⟨(hv.candid i).idle hh, (hv.candid i).waiting hh⟩
  driven hW v hv :=
    (hv.found i).exact hW (hv.keeps (World.fresh_lawful (W.terms i) i clock)).lawful.sound
  others hW v hv he α k x n hk hx hstop := by
    have hlaw := (hv.keeps (World.fresh_lawful (W.terms i) i clock)).lawful
    have hm := ((faithful_watched W i n).client hx v ⟨hlaw, fun h => absurd h hk⟩).holds
    have hf := (client_found W hk hx n (he.found hv)).found hstop
    rcases hr : x (.watched L W n) v with ⟨_ | _ | _, u⟩ <;> rw [hr] at hm hf hstop
    · exact hf.exact hW (Follows.lawful hm).sound
    · exact hf.exact hW (Follows.lawful hm).sound
    · exact absurd rfl hstop
  left alarm n v k a t exit u frame driver ho hc hk hv hu := by
    have hE := probed_attuned (L := L) W alarm i n
    have hm := (hE.1.body k a t v hk ⟨ho, hc, hv⟩).meets.holds
    rw [hu] at hm
    exact (((hE.2 exit.awaited).leaveSwitch frame driver) u hm.1).same

/-! ## A signal that is let go of -/

section

open Script (Block)

/-- Waits; when it is closed, it tells what its heir awaits. -/
def keepsake : Block :=
  [.attempt [.yield .none none]
    [.mk none none false [.perform (.say (.property (.slot "heir") "await")) none]] []]

/-- Ends with an exhaustion signal that owns the last handle of the keepsake. -/
def grantor : Block :=
  [.attempt [.raise (.exception (.builtinClass "StopIteration") [.int 1, .slot "keepsake"]) .none] []
    [.perform (.dropSlot "keepsake") none]]

/-- Builds the grantor, whose signals are not turned into errors, and awaits it. -/
def heir : Block :=
  [.perform (.makeCoroutine { coroutineOf "grantor" [] with
      code := .spec ⟨"grantor", none, none, some false, grantor⟩ }) (some "grantor"),
    .await (.localVar "grantor") none]

/-- Starts the keepsake, and then the heir. -/
def bequeathKeepsake (E : Engine Script.language) : Effect Script.language Unit := do
  launch "keepsake" keepsake E
  launch "heir" heir E

theorem shows_of_asCoroutine {awaiting : Option Value} {c : CoroutineId}
    (h : awaiting.bind (·.asCoroutine?) = some c) : awaiting = some (.coroutine c) := by
  obtain ⟨v, rfl, hv⟩ := Option.bind_eq_some_iff.mp h
  cases v <;> cases hv
  rfl

/-- The signal is let go of while the delegation is on: the keepsake, which is closed then, sees that the heir
awaits the grantor, although that is finished. -/
theorem keepsake_sees_grantor :
    ∃ v : World Script.language, Moment { strict := true, civil := true } (World.fresh 15) v ∧
      (v.coroutine ⟨0⟩).IsExecuting ∧ (v.coroutine ⟨1⟩).handles ≠ 0 ∧
      (v.coroutine ⟨1⟩).awaiting = some (.coroutine ⟨2⟩) ∧ (v.coroutine ⟨2⟩).status = .finished := by
  refine ⟨_, .of (x := bequeathKeepsake) 40 .refl ?_, ⟨⟨?_, ?_⟩, ?_⟩, ?_, shows_of_asCoroutine ?_, ?_⟩
  · exact .bind (launch_client _ _) fun _ => launch_client _ _
  · decide +kernel
  · decide +kernel
  · decide +kernel
  · decide +kernel
  · decide +kernel
  · decide +kernel

end

end CoroutineEngine
