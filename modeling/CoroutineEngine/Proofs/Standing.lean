import CoroutineEngine.Proofs.Watch

/-!
# The standing of a coroutine

What holds of the record of a coroutine at every moment, and how the record at the end of a computation
relates to the record at its start. A coroutine is away from the switch into its fiber until the fiber
is put back; it is then executing, or being left.

Results:
* `standing`: the law of a coroutine's record, for computations of other clients and of its own body.
* `standing_quiet`, `standing_other`: quiet computations and changes of other records keep it.
-/

namespace CoroutineEngine

variable {L : Language} {α : Type}

/-! ## Definitions -/

/-- What is known of the runs that are spoken of.

* `strict`: no release of a handle panics.
* `tidy`: no run of the body of the coroutine leaves an error in the slot.
* `civil`: no hook changes what is handled. -/
structure Terms where
  strict : Prop
  tidy : Prop
  civil : Prop

/-- A fiber that a body waits in. -/
def Fiber.IsWaiting (f : Fiber L) : Prop := ∃ a, f.stack = .suspended a

namespace CoroutineRecord

/-- Asking for the fiber of the coroutine panics: its stack has no size. -/
def IsDoomed (r : CoroutineRecord L) : Prop :=
  r.supply.failures = 0 ∧ Stack.grant r.supply.stackSize = .overflow

/-- The fiber is out of its place: the body is executing, or it is being left. -/
def IsAway (r : CoroutineRecord L) : Prop := r.status = .running ∧ r.fiber = none

/-- The body is executing. -/
def IsExecuting (r : CoroutineRecord L) : Prop := r.IsAway ∧ r.running = true

/-- Nothing was done yet with the coroutine. -/
structure IsPristine (r : CoroutineRecord L) : Prop where
  fiber : r.fiber = none
  frame : r.frame = none
  awaiting : r.awaiting = none
  handled : r.handled = none
  left : r.history.left = none
  entries : r.history.entries = 0

/-- A finished coroutine awaits nothing any more. -/
def IsSettled (r : CoroutineRecord L) : Prop := r.status = .finished → r.awaiting = none

/-- Unless its fibers are lost, the context of a coroutine was lost only to requests that were made while
its body was being left. In tidy runs there were none. -/
def IsAccounted (T : Terms) (r : CoroutineRecord L) : Prop :=
  r.supply.lossIn = none → r.history.losses = r.history.intrusions ∧
    (T.tidy → r.history.intrusions = 0)

/-- A switch into the fiber is in flight: the fiber is out of its place, and was not given up. -/
def IsInFlight (r : CoroutineRecord L) : Prop := r.fiber = none ∧ r.history.freed < r.history.fibers

/-- A coroutine that was torn down has no fiber any more, unless somebody has trespassed. -/
def IsLaid (r : CoroutineRecord L) : Prop :=
  r.handles = 0 → r.history.trespasses = 0 → r.fiber = none ∧ ¬ r.IsInFlight

/-- What holds of the record of a coroutine at every moment, also while its body is being left. The body
was never surprised by what it found when it was resumed, and what it handled is kept for it. It asks for
a fiber only while it is unused, gets one at most, and gives it up at most once. Its parameters are given up
only as it finishes, or when nobody holds it any more. -/
structure IsCoherent (T : Terms) (r : CoroutineRecord L) : Prop where
  pending : r.pending = none ∨ r.status = .unused ∧ r.IsDoomed
  running : r.running = true → r.IsAway
  unused : r.status = .unused → r.IsPristine
  frame : r.status = .running → r.released = false → r.frame ≠ none
  finished : r.status = .finished → r.frame = none ∧ r.inputs.parameters = []
  held : r.released = false → r.inputs = .new r.history.parameters r.history.closure
  torn : r.released = true → r.status = .finished ∨ r.handles = 0
  fiber : ∀ f, r.fiber = some f → r.status = .running →
    f.IsWaiting ∧ (r.supply.lossIn = none → f.lossIn = none)
  entries : r.history.entries ≤ 1
  losses : r.IsAccounted T
  left : T.civil → r.status = .running → r.fiber ≠ none → r.frame ≠ none →
    r.handled = r.history.left
  surprises : T.civil → r.history.surprises = 0
  lateAsks : r.history.lateAsks = 0
  fibers : r.history.fibers = if r.status = .unused then 0 else 1
  misentries : r.history.misentries = 0
  faults : r.supply.lossIn = none → r.history.faults = 0
  finishes : r.history.finishes = if r.status = .finished then 1 else 0
  freed : r.history.freed + r.fiber.toList.length ≤ r.history.fibers

/-- What holds of the record of a coroutine whenever somebody can make a request: in tidy runs, a fiber
that is out of its place is being executed. -/
structure IsSound (T : Terms) (r : CoroutineRecord L) : Prop extends r.IsCoherent T where
  kept : T.tidy → r.supply.lossIn = none → r.IsAway → r.running = true ∨ r.released = true

/-- What never changes back: the status only moves forward, the code and the fibers that the coroutine
gets stay what they are, the inputs are held until they are given up, and the body of a coroutine that
was started is not entered any more. -/
structure Precedes (r r' : CoroutineRecord L) : Prop where
  rank : r.status.rank ≤ r'.status.rank
  code : r'.code = r.code
  stackSize : r'.supply.stackSize = r.supply.stackSize
  lossIn : r'.supply.lossIn = r.supply.lossIn
  failures : r'.supply.failures ≤ r.supply.failures
  inputs : r'.released = false → r'.inputs = r.inputs
  parameters : r'.history.parameters = r.history.parameters
  entries : r.status ≠ .unused → r'.history.entries = r.history.entries
  trespasses : r.history.trespasses ≤ r'.history.trespasses

/-- What becomes of the record while the fiber is out of its place: the coroutine may be torn down. -/
structure Lingers (r r' : CoroutineRecord L) : Prop where
  away : r'.IsAway
  left : r'.history.left = r.history.left
  handled : r'.handled = r.handled ∨ r'.handled = none ∧ r'.frame = none
  frame : r'.frame = r.frame ∨ r'.released = true ∧ r'.frame = none

/-- What becomes of the handles and the fiber of a coroutine over a computation: where there is no handle,
there is none to copy, no switch into the fiber is left in flight, and a fiber that is out of its place is
neither put back nor given up. -/
structure Accounts (r r' : CoroutineRecord L) : Prop where
  bare : r.handles = 0 → r'.handles = 0
  landed : r'.IsInFlight → r.IsInFlight
  laid : r.IsLaid → r'.IsLaid
  gone : r.status ≠ .unused → r.fiber = none →
    r'.fiber = none ∧ r'.history.freed = r.history.freed

/-- How the record at the end of a computation relates to the one at its start. -/
structure LeadsTo (T : Terms) (r r' : CoroutineRecord L) : Prop extends r.Precedes r' where
  running : r'.running = r.running
  away : r.IsAway → r.Lingers r'
  awaiting : r.status = .finished → r.awaiting = none → r'.awaiting = none
  settled : T.strict → r.IsSettled → r'.IsSettled
  accounts : r.Accounts r'

/-- The record at the end differs at most in what no law of a coroutine's record speaks of: its handles,
its names, and the notes of visits and closes. -/
def Spares (r r' : CoroutineRecord L) : Prop :=
  r' = { r with
    handles := r'.handles, name := r'.name, qualname := r'.qualname, finalized := r'.finalized
    history :=
      { r.history with
        visits := r'.history.visits, finalizations := r'.history.finalizations
        farewells := r'.history.farewells, teardowns := r'.history.teardowns
        collapses := r'.history.collapses
        trespasses := r'.history.trespasses } }

/-- No request on the coroutine is in progress. -/
def IsAtRest (T : Terms) (r : CoroutineRecord L) : Prop :=
  r.running = false ∧ (T.strict → r.IsSettled) ∧ ¬ r.IsInFlight ∧ r.IsLaid

end CoroutineRecord

/-- What holds at every moment: the ambient state can be used, and the record of the coroutine is
sound. -/
structure Lawful (T : Terms) (i : CoroutineId) (w : World L) : Prop where
  orderly : w.Orderly
  sound : (w.coroutine i).IsSound T

/-! ## Helpers -/

namespace CoroutineRecord

variable {T : Terms} {r r' r'' : CoroutineRecord L}

theorem Precedes.of_fields (hs : r'.status = r.status) (hc : r'.code = r.code)
    (hf : r'.supply = r.supply) (hi : r'.inputs = r.inputs)
    (hh : r'.history.parameters = r.history.parameters ∧ r'.history.entries = r.history.entries)
    (ht : r.history.trespasses ≤ r'.history.trespasses) : r.Precedes r' := by
  refine ⟨?_, hc, ?_, ?_, ?_, fun _ => hi, hh.1, fun _ => hh.2, ht⟩
  · exact Nat.le_of_eq (by rw [hs])
  · rw [hf]
  · rw [hf]
  · exact Nat.le_of_eq (by rw [hf])

theorem Precedes.refl (r : CoroutineRecord L) : r.Precedes r :=
  .of_fields rfl rfl rfl rfl ⟨rfl, rfl⟩ (Nat.le_refl _)

theorem Precedes.released (h : r.Precedes r') (hr : r.released = true) : r'.released = true := by
  cases hr' : r'.released with
  | true => rfl
  | false =>
    have he := h.inputs hr'
    rw [CoroutineRecord.released, he] at hr'
    rw [CoroutineRecord.released, hr'] at hr
    exact hr

theorem Precedes.finished (h : r.Precedes r') (hr : r.status = .finished) :
    r'.status = .finished := by
  have h' := h.rank
  cases hs : r'.status <;> simp_all [Status.rank]

theorem Precedes.not_unused (h : r.Precedes r') (hr : r.status ≠ .unused) :
    r'.status ≠ .unused := by
  have h' := h.rank
  cases hs : r.status <;> cases hs' : r'.status <;> simp_all [Status.rank]

theorem Precedes.trans (h : r.Precedes r') (h' : r'.Precedes r'') : r.Precedes r'' := by
  refine ⟨Nat.le_trans h.rank h'.rank, h'.code.trans h.code, h'.stackSize.trans h.stackSize,
    h'.lossIn.trans h.lossIn, Nat.le_trans h'.failures h.failures, ?_,
    h'.parameters.trans h.parameters, fun hr => ?_, Nat.le_trans h.trespasses h'.trespasses⟩
  · intro hr
    have he := h'.inputs hr
    rw [he]
    apply h.inputs
    rw [CoroutineRecord.released, ← he]
    exact hr
  · exact (h'.entries (h.not_unused hr)).trans (h.entries hr)

theorem Lingers.refl (h : r.IsAway) : r.Lingers r := ⟨h, rfl, .inl rfl, .inl rfl⟩

theorem Lingers.trans (h : r.Lingers r') (h' : r'.Lingers r'') (hp : r'.Precedes r'') :
    r.Lingers r'' := by
  have gone (hn : r'.frame = none) : r''.frame = none := by
    rcases h'.frame with hf | hf
    · exact hf.trans hn
    · exact hf.2
  refine ⟨h'.away, h'.left.trans h.left, ?_, ?_⟩
  · rcases h'.handled with hh' | hh'
    · rcases h.handled with hh | hh
      · exact .inl (hh'.trans hh)
      · exact .inr ⟨hh'.trans hh.1, gone hh.2⟩
    · exact .inr hh'
  · rcases h.frame with hf | hf
    · exact h'.frame.imp_left fun hf' => hf'.trans hf
    · exact .inr ⟨hp.released hf.1, gone hf.2⟩

theorem isInFlight_iff : r.isInFlight = true ↔ r.IsInFlight := by
  simp [isInFlight, IsInFlight, Option.isNone_iff_eq_none]

theorem Accounts.refl (r : CoroutineRecord L) : r.Accounts r := ⟨id, id, id, fun _ hf => ⟨hf, rfl⟩⟩

theorem Accounts.trans (h : r.Accounts r') (h' : r'.Accounts r'') (hp : r.Precedes r') :
    r.Accounts r'' := by
  refine ⟨h'.bare ∘ h.bare, h.landed ∘ h'.landed, h'.laid ∘ h.laid, fun hu hf => ?_⟩
  obtain ⟨hf', hs'⟩ := h.gone hu hf
  obtain ⟨hf'', hs''⟩ := h'.gone (hp.not_unused hu) hf'
  exact ⟨hf'', hs''.trans hs'⟩

/-- A change that leaves the fiber alone, and neither takes the last handle nor makes a first one. -/
theorem Accounts.of_fields (hb : r'.fiber = r.fiber)
    (hf : r'.history.fibers = r.history.fibers ∧ r'.history.freed = r.history.freed)
    (hh : r'.handles = 0 ↔ r.handles = 0) (ht : r.history.trespasses ≤ r'.history.trespasses) :
    r.Accounts r' := by
  have hsame : r'.IsInFlight ↔ r.IsInFlight := by rw [IsInFlight, IsInFlight, hb, hf.1, hf.2]
  refine ⟨hh.mpr, hsame.mp, fun hl h0 ht0 => ?_, fun _ hn => ⟨hb.trans hn, hf.2⟩⟩
  rw [hb, hsame]
  exact hl (hh.mp h0) (Nat.le_zero.mp (ht0 ▸ ht))

/-- A change that leaves alone all that a law speaks of. -/
theorem LeadsTo.of_fields (hs : r'.status = r.status) (hc : r'.code = r.code)
    (hf : r'.supply = r.supply) (hi : r'.inputs = r.inputs)
    (hh : r'.history.parameters = r.history.parameters ∧ r'.history.entries = r.history.entries ∧
      r'.history.left = r.history.left)
    (hn : r'.history.fibers = r.history.fibers ∧ r'.history.freed = r.history.freed)
    (hd : r'.handles = 0 ↔ r.handles = 0) (ht : r.history.trespasses ≤ r'.history.trespasses)
    (hr : r'.running = r.running) (hb : r'.fiber = r.fiber) (ha : r'.handled = r.handled)
    (he : r'.frame = r.frame) (hw : r'.awaiting = r.awaiting) : r.LeadsTo T r' := by
  refine ⟨.of_fields hs hc hf hi ⟨hh.1, hh.2.1⟩ ht, hr, fun h => ?_, fun _ h => hw.trans h, ?_,
    .of_fields hb hn hd ht⟩
  · exact ⟨⟨hs.trans h.1, hb.trans h.2⟩, hh.2.2, .inl ha, .inl he⟩
  · intro _ h hfin
    exact hw.trans (h (hs.symm.trans hfin))

theorem LeadsTo.refl (r : CoroutineRecord L) : r.LeadsTo T r :=
  .of_fields rfl rfl rfl rfl ⟨rfl, rfl, rfl⟩ ⟨rfl, rfl⟩ .rfl (Nat.le_refl _) rfl rfl rfl rfl rfl

theorem LeadsTo.trans (h : r.LeadsTo T r') (h' : r'.LeadsTo T r'') : r.LeadsTo T r'' := by
  refine ⟨h.toPrecedes.trans h'.toPrecedes, h'.running.trans h.running, ?_, ?_,
    fun ht => h'.settled ht ∘ h.settled ht, h.accounts.trans h'.accounts h.toPrecedes⟩
  · exact fun ha => (h.away ha).trans (h'.away (h.away ha).away) h'.toPrecedes
  · exact fun hs ha => h'.awaiting (h.toPrecedes.finished hs) (h.awaiting hs ha)

theorem LeadsTo.executing (h : r.LeadsTo T r') (hr : r.IsExecuting) : r'.IsExecuting :=
  ⟨(h.away hr.1).away, h.running.trans hr.2⟩

theorem LeadsTo.atRest (h : r.LeadsTo T r') (hr : r.IsAtRest T) : r'.IsAtRest T :=
  ⟨h.running.trans hr.1, fun ht => h.settled ht (hr.2.1 ht), hr.2.2.1 ∘ h.accounts.landed,
    h.accounts.laid hr.2.2.2⟩

theorem Newborn.sound (h : r.Newborn) : r.IsSound T where
  pending := .inl h.pending
  running hr := absurd (h.running.symm.trans hr) Bool.false_ne_true
  unused _ := ⟨h.fiber, h.frame, h.awaiting, h.handled, by rw [h.history]; rfl, by rw [h.history]; rfl⟩
  frame hs := absurd (h.status.symm.trans hs) (by decide)
  finished hs := absurd (h.status.symm.trans hs) (by decide)
  held hr := by
    have hi : r.inputs = ⟨r.inputs.parameters, r.inputs.closure, r.released⟩ := rfl
    rw [h.history, hi, hr]
    rfl
  torn hr := absurd (h.released.symm.trans hr) Bool.false_ne_true
  fiber _ hf := absurd (h.fiber.symm.trans hf) (by simp)
  entries := by rw [h.history]; exact Nat.zero_le 1
  kept _ _ ha := absurd (h.status.symm.trans ha.1) (by decide)
  losses _ := by rw [h.history]; exact ⟨rfl, fun _ => rfl⟩
  left _ hs := absurd (h.status.symm.trans hs) (by decide)
  surprises _ := by rw [h.history]; rfl
  lateAsks := by rw [h.history]; rfl
  fibers := by rw [h.history, h.status]; rfl
  misentries := by rw [h.history]; rfl
  faults _ := by rw [h.history]; rfl
  finishes := by rw [h.history, h.status]; rfl
  freed := by rw [h.history, h.fiber]; exact Nat.le_refl 0

theorem Newborn.atRest (h : r.Newborn) : r.IsAtRest T := by
  have hflight : ¬ r.IsInFlight := fun hf => absurd hf.2 (by rw [h.history]; exact Nat.lt_irrefl 0)
  exact ⟨h.running, fun _ hs => absurd (h.status.symm.trans hs) (by decide), hflight,
    fun _ _ => ⟨h.fiber, hflight⟩⟩

theorem Spares.sound (h : r.Spares r') (hd : r.handles = 0 → r'.handles = 0) (hr : r.IsSound T) :
    r'.IsSound T := by
  rw [h]
  exact { hr with
    unused := fun hu => { hr.unused hu with }
    held := hr.held
    torn := fun ht => (hr.torn ht).imp_right hd
    losses := hr.losses }

theorem Spares.leadsTo (h : r.Spares r') (hd : r'.handles = 0 ↔ r.handles = 0)
    (ht : r.history.trespasses ≤ r'.history.trespasses) : r.LeadsTo T r' := by
  rw [h]
  exact .of_fields rfl rfl rfl rfl ⟨rfl, rfl, rfl⟩ ⟨rfl, rfl⟩ hd ht rfl rfl rfl rfl rfl

theorem Resembles.spares (h : r.Resembles r') : r.Spares r' := by
  rw [h.same]
  rfl

theorem Resembles.leadsTo (h : r.Resembles r') : r.LeadsTo T r' := by
  refine h.spares.leadsTo ⟨fun hz => Nat.le_zero.mp (hz ▸ h.handles), h.dead⟩ (Nat.le_of_eq ?_)
  rw [h.same]

end CoroutineRecord

/-! ## The law -/

/-- The world at the end of a computation follows from the one at its start, as far as the coroutine `i` is
concerned; `k` is the coroutine that the computation serves the body of. -/
structure Follows (T : Terms) (i : CoroutineId) (k : Option CoroutineId) (w v : World L) : Prop where
  lawful : Lawful T i v
  executing : k = some i → (v.coroutine i).IsExecuting
  leads : w.Has i → v.Has i ∧ (w.coroutine i).LeadsTo T (v.coroutine i)
  atRest : ¬ w.Has i → (v.coroutine i).IsAtRest T

/-- Where a computation may be cut. -/
structure CutAt (T : Terms) (i : CoroutineId) (w v : World L) : Prop where
  lawful : Lawful T i v
  precedes : w.Has i → (w.coroutine i).Precedes (v.coroutine i)

section

variable {T : Terms} {i : CoroutineId} {k : Option CoroutineId} {w v u : World L}

theorem Follows.refl (h : Lawful T i w) (hk : k = some i → (w.coroutine i).IsExecuting) :
    Follows T i k w w where
  lawful := h
  executing := hk
  leads hi := ⟨hi, .refl _⟩
  atRest hi := by
    rw [World.coroutine_eq_default (Nat.le_of_not_lt hi)]
    exact CoroutineRecord.newborn_default.atRest

theorem Follows.trans (h : Follows T i k w v) (h' : Follows T i k v u) : Follows T i k w u where
  lawful := h'.lawful
  executing := h'.executing
  leads hi := by
    obtain ⟨hv, hl⟩ := h.leads hi
    obtain ⟨hu, hl'⟩ := h'.leads hv
    exact ⟨hu, hl.trans hl'⟩
  atRest hi := by
    by_cases hv : v.Has i
    · exact (h'.leads hv).2.atRest (h.atRest hi)
    · exact h'.atRest hv

theorem Follows.then_cut (h : Follows T i k w v) (h' : CutAt T i v u) : CutAt T i w u where
  lawful := h'.lawful
  precedes hi := (h.leads hi).2.toPrecedes.trans (h'.precedes (h.leads hi).1)

theorem Follows.cut (h : Follows T i k w v) : CutAt T i w v :=
  ⟨h.lawful, fun hi => (h.leads hi).2.toPrecedes⟩

end

/-- The law of the record of a coroutine `i`, for a client that is the body of the coroutine `k`. -/
def standing (L : Language) (T : Terms) (i : CoroutineId) (k : Option CoroutineId) : Law L where
  start w := Lawful T i w ∧ (k = some i → (w.coroutine i).IsExecuting)
  step := Follows T i k
  panic := Follows T i k
  cut := CutAt T i
  refl h := .refl h.1 h.2
  next h := ⟨h.lawful, h.executing⟩
  trans := .trans
  step_panic := .trans
  step_cut := Follows.then_cut
  panic_next h := ⟨h.lawful, h.executing⟩
  panic_step := .trans
  panic_cut := Follows.then_cut
  cut_of_panic := Follows.cut

/-- The law for what serves no body in particular: a release of handles, which panics only if finalizers
do. -/
def gentle (L : Language) (T : Terms) (i : CoroutineId) : Law L where
  start := Lawful T i
  step := Follows T i none
  panic w v := ¬ T.strict ∧ Follows T i none w v
  cut := CutAt T i
  refl h := .refl h nofun
  next h := h.lawful
  trans := .trans
  step_panic h h' := ⟨h'.1, h.trans h'.2⟩
  step_cut := Follows.then_cut
  panic_next h := h.2.lawful
  panic_step h h' := ⟨h.1, h.2.trans h'⟩
  panic_cut h := h.2.then_cut
  cut_of_panic h := h.2.cut

section

variable {T : Terms} {i : CoroutineId} {k : Option CoroutineId}

theorem standing_has {w : World L} (h : (w.coroutine i).IsExecuting) : w.Has i := by
  refine Classical.byContradiction fun hi => ?_
  rw [World.coroutine_eq_default (Nat.le_of_not_lt hi)] at h
  exact absurd h.1.1 (show Status.unused ≠ .running by decide)

/-- What is left to show of a computation: the record is sound, and follows from the one before, or is
that of a coroutine at rest. -/
theorem standing_step {w v : World L} (h : (standing L T i k).start w) (hv : Lawful T i v)
    (hl : w.Has i → v.Has i ∧ (w.coroutine i).LeadsTo T (v.coroutine i))
    (hr : ¬ w.Has i → (v.coroutine i).IsAtRest T) : Follows T i k w v :=
  ⟨hv, fun hk => (hl (standing_has (h.2 hk))).2.executing (h.2 hk), hl, hr⟩

/-- What follows for one client follows for every other one. -/
theorem Follows.anyone {w v : World L} {j : Option CoroutineId} (h : Follows T i j w v)
    (hw : (standing L T i k).start w) : Follows T i k w v :=
  standing_step hw h.lawful h.leads h.atRest

theorem standing_of_undisturbed {w v : World L} (h : (standing L T i k).start w)
    (hu : Undisturbed w v) : Follows T i k w v := by
  refine standing_step h ⟨hu.orderly h.1.orderly, ?_⟩ ?_ ?_
  · by_cases hi : w.Has i
    · exact (hu.old i hi).spares.sound (hu.old i hi).dead h.1.sound
    · by_cases hv : v.Has i
      · exact (hu.new i (Nat.le_of_not_lt hi) hv).1.sound
      · rw [World.coroutine_eq_default (Nat.le_of_not_lt hv)]
        exact CoroutineRecord.newborn_default.sound
  · intro hi
    exact ⟨Nat.lt_of_lt_of_le hi hu.count, (hu.old i hi).leadsTo⟩
  · intro hi
    by_cases hv : v.Has i
    · exact (hu.new i (Nat.le_of_not_lt hi) hv).1.atRest
    · rw [World.coroutine_eq_default (Nat.le_of_not_lt hv)]
      exact CoroutineRecord.newborn_default.atRest

theorem standing_of {x : Effect L α} (hx : ∀ w, (standing L T i k).start w → Follows T i k w (x w).2) :
    (standing L T i k).Kept x := by
  intro w hw
  have h := hx w hw
  refine ⟨?_⟩
  rcases hv : x w with ⟨a | m | _, v⟩ <;> rw [hv] at h
  · exact h
  · exact h
  · exact h.cut

/-- Harmless computations keep the law. -/
theorem standing_harmless {x : Effect L α} (hx : Harmless x) : (standing L T i k).Kept x :=
  standing_of fun w hw => standing_of_undisturbed hw (hx w)

/-- Quiet computations keep the law. -/
theorem standing_quiet {x : Effect L α} (hx : Quiet x) : (standing L T i k).Kept x :=
  standing_harmless hx.harmless

/-- A change of another coroutine's record keeps the law. -/
theorem standing_other {j : CoroutineId} (hj : j ≠ i) {x : Effect L α} (hx : Held j x) :
    (standing L T i k).Kept x := by
  refine standing_of fun w hw => ?_
  obtain ⟨f, hf, -⟩ := hx w
  obtain ⟨hn, hi⟩ := modified_other w hj f
  rw [hf]
  refine standing_step hw ⟨⟨hw.1.orderly.borrowed, hw.1.orderly.hook⟩, ?_⟩ ?_ ?_
  · rw [hi]
    exact hw.1.sound
  · intro h
    rw [hi]
    exact ⟨hn.mpr h, .refl _⟩
  · intro h
    rw [hi, World.coroutine_eq_default (Nat.le_of_not_lt h)]
    exact CoroutineRecord.newborn_default.atRest

/-- What serves no body in particular keeps the law for every client. -/
theorem gentle_anyone {x : Effect L α} (hx : (gentle L T i).Kept x) :
    (standing L T i k).Kept x := fun w hw =>
  (hx w hw.1).mono (fun _ _ hv => hv.anyone hw) (fun _ hv => hv.2.anyone hw) fun _ hv => hv

/-- A client that is no body of the coroutine is like one that is no body at all. -/
theorem standing_stranger {j : Option CoroutineId} {x : Effect L α} (hk : k ≠ some i)
    (hx : (standing L T i k).Kept x) : (standing L T i j).Kept x := fun w hw =>
  (hx w ⟨hw.1, fun h => absurd h hk⟩).mono (fun _ _ hv => hv.anyone hw) (fun _ hv => hv.anyone hw)
    fun _ hv => hv

/-- Quiet computations that never panic are gentle. -/
theorem gentle_quiet {x : Effect L α} (hx : Quiet x)
    (ok : ∀ w : World L, w.Orderly → ∃ a, (x w).1 = .ok a) : (gentle L T i).Kept x := by
  intro w hw
  have hu := (hx w).toUndisturbed
  obtain ⟨a, ha⟩ := ok w hw.orderly
  refine ⟨?_⟩
  rcases h : x w with ⟨b | m | _, v⟩ <;> rw [h] at hu ha
  · exact standing_of_undisturbed ⟨hw, nofun⟩ hu
  · exact absurd ha (by simp)
  · exact absurd ha (by simp)

end

end CoroutineEngine
