import CoroutineEngine.Proofs.Runs
import CoroutineEngine.Proofs.Upheld

/-!
# The hook in force

A hook is in force from when it is asked for until another one is asked for, or its removal. While it
handles a report it is not in its place, and what it does then can ask for hooks too. Afterwards it is put
back if there is no hook, so its removal during a report is undone; and if it panics, it is gone.

Results:
* `hooked_universal`: what every computation keeps of the hook.
* `hook_in_force`: the hook that is installed when a report, or anything else, is over.
* `hook_not_in_force`: a hook that is put back after its removal, and one that is lost.
-/

namespace CoroutineEngine

variable {L : Language} {α : Type}

/-! ## Definitions -/

/-- Which hook is installed in a state `a'`, if the hooks `calls` were asked for since a state `a`, the last
one first.

* `asked`: there were no other calls.
* `last`: unless the last call was a removal, what was asked for last is installed, or what was installed
  before if nothing was; or there is none, if hooks can be lost.
* `known`: in any case the hook is one that was installed before or asked for since. -/
structure Ambient.Honors (lost : Prop) (a a' : Ambient L) (calls : List (Option (Hook L))) : Prop where
  asked : a'.asked = calls ++ a.asked
  last : calls.head? ≠ some none → a'.hook = calls.headD a.hook ∨ lost ∧ a'.hook = none
  known : a'.hook = none ∨ a'.hook = a.hook ∨ a'.hook ∈ calls

/-- The hook is in force that was asked for last, before a computation or during it, unless that was a
removal; a hook can be lost if there was a panic. -/
structure HonorsCalls (x : Effect L α) (w : World L) : Prop where
  ok : ∀ a v, x w = (.ok a, v) → ∃ calls, w.ambient.Honors False v.ambient calls
  panic : ∀ m v, x w = (.panic m, v) → ∃ calls, w.ambient.Honors True v.ambient calls

/-! ## Helpers -/

namespace Ambient.Honors

variable {p q s : Prop} {a a' a'' : Ambient L} {calls calls' : List (Option (Hook L))}

theorem refl (a : Ambient L) : a.Honors p a [] := ⟨rfl, fun _ => .inl rfl, .inr (.inl rfl)⟩

theorem mono (h : a.Honors p a' calls) (hpq : p → q) : a.Honors q a' calls :=
  { h with last := fun hc => (h.last hc).imp_right fun hlost => ⟨hpq hlost.1, hlost.2⟩ }

theorem trans (h : a.Honors p a' calls) (h' : a'.Honors q a'' calls') (hp : p → s) (hq : q → s) :
    a.Honors s a'' (calls' ++ calls) where
  asked := by rw [h'.asked, h.asked, List.append_assoc]
  last := by
    cases calls' with
    | nil =>
      intro hc
      rcases h'.last nofun with hsame | ⟨hlost, hnone⟩
      · rw [hsame]
        exact (h.mono hp).last hc
      · exact .inr ⟨hq hlost, hnone⟩
    | cons call _ => exact (h'.mono hq).last
  known := by
    rcases h'.known with hnone | hsame | hmem
    · exact .inl hnone
    · rw [hsame]
      exact h.known.imp_right fun hknown => hknown.imp_right (List.mem_append_right _)
    · exact .inr (.inr (List.mem_append_left _ hmem))

theorem of_obeys (h : a.Obeys a') : ∃ calls, a.Honors False a' calls := by
  obtain ⟨calls, hasked, hhook⟩ := h
  refine ⟨calls, hasked, fun _ => .inl hhook, .inr ?_⟩
  cases calls with
  | nil => exact .inl hhook
  | cons last _ => exact .inr (hhook ▸ List.mem_cons_self)

/-- A hook that was taken out of its place is lost. -/
theorem taken (h : { a with hook := none }.Honors p a' calls) : a.Honors True a' calls where
  asked := h.asked
  last hc := by
    cases calls with
    | nil => exact .inr ⟨trivial, (h.last nofun).elim id And.right⟩
    | cons _ _ => exact (h.mono fun _ => trivial).last hc
  known := h.known.elim .inl fun hknown => hknown.imp id .inr

/-- A hook that was taken out of its place is put back if there is none. -/
theorem putBack {hook : Hook L} (hhook : a.hook = some hook)
    (h : { a with hook := none }.Honors False a' calls) :
    a.Honors False { a' with hook := some (a'.hook.getD hook) } calls where
  asked := h.asked
  last hc := by
    have hlast := (h.last hc).resolve_right And.left
    refine .inl ?_
    cases calls with
    | nil => simp only [hlast, List.headD_nil, Option.getD_none, hhook]
    | cons call _ =>
      obtain ⟨other, rfl⟩ := Option.ne_none_iff_exists'.mp fun hnone => hc (congrArg some hnone)
      simp only [hlast, List.headD_cons, Option.getD_some]
  known := by
    have hknown : a'.hook = none ∨ a'.hook ∈ calls := h.known.elim .inl id
    cases hk : a'.hook with
    | none => exact .inr (.inl hhook.symm)
    | some other => exact .inr (.inr (hk ▸ hknown.resolve_left (hk ▸ nofun)))

end Ambient.Honors

/-! ## The law of the hook -/

/-- Between two worlds, calls for a hook were honored. -/
def Honored (lost : Prop) (w v : World L) : Prop :=
  v.Orderly ∧ ∃ calls, w.ambient.Honors lost v.ambient calls

theorem Honored.trans {p q s : Prop} {w v u : World L} (h : Honored p w v) (h' : Honored q v u)
    (hp : p → s) (hq : q → s) : Honored s w u :=
  ⟨h'.1, _, h.2.choose_spec.trans h'.2.choose_spec hp hq⟩

/-- The law that calls for a hook are honored; of runs that are cut it says nothing. -/
def hooked (L : Language) : Law L where
  start := World.Orderly
  step := Honored False
  panic := Honored True
  cut _ _ := True
  refl hw := ⟨hw, _, .refl _⟩
  next h := h.1
  trans h h' := h.trans h' id id
  step_panic h h' := h.trans h' False.elim id
  step_cut _ _ := trivial
  panic_next h := h.1
  panic_step h h' := h.trans h' id False.elim
  panic_cut _ _ := trivial
  cut_of_panic _ := trivial

theorem Kept.hooked {x : Effect L α} (hx : ∀ w, w.Orderly → Honored False w (x w).2) :
    (hooked L).Kept x := by
  intro w hw
  have h := hx w hw
  refine ⟨?_⟩
  rcases hr : x w with ⟨_ | _ | _, v⟩ <;> rw [hr] at h
  · exact h
  · exact ⟨h.1, h.2.imp fun _ hc => hc.mono False.elim⟩
  · trivial

theorem Quiet.hooked {x : Effect L α} (hx : Quiet x) : (hooked L).Kept x :=
  Kept.hooked fun w hw => ⟨(hx w).orderly hw, Ambient.Honors.of_obeys (hx w).obeys⟩

/-- What changes nothing about the ambient state keeps the hook. -/
theorem Aloof.hooked {x : Effect L α} (hx : Aloof x) : (CoroutineEngine.hooked L).Kept x :=
  Kept.hooked fun w hw => ⟨⟨hx w ▸ hw.borrowed, hx w ▸ hw.hook⟩, [], hx w ▸ .refl _⟩

/-- A report: the hook is taken out of its place, runs, and is put back. -/
theorem writeUnraisable_hooked {E : Engine L} (release : ∀ v, (hooked L).Kept (E.release v))
    (run : ∀ a t, (hooked L).Kept (E.run none a t)) (object : String) (e : Exception) :
    (hooked L).Kept (writeUnraisable E object e) := by
  refine .andFinally ?_ (release _)
  intro w hw
  refine .bind (.of_ok (withAmbient_ok hw) ?_)
  dsimp only
  cases hh : w.ambient.hook with
  | none =>
    have hsame : { w with ambient := { w.ambient with hook := none } } = w := by rw [← hh]
    rw [hsame]
    exact Law.Kept.logIgnored (fun hx _ => hx.hooked) object e w hw
  | some hook =>
    have howned := hw.hook hook hh
    have hrun := (Law.Kept.runHook (fun hx _ => hx.hooked) release run hook object e).onPanic
      (.releaseAll release hook.owned)
    have htaken : { w with ambient := { w.ambient with hook := none } }.Orderly :=
      ⟨hw.borrowed, fun _ hk => absurd hk (by simp)⟩
    refine .bind ((hrun _ htaken).mono (fun _ v hv => ?_)
      (fun v hv => ⟨hv.1, hv.2.imp fun _ hc => hc.taken⟩) fun _ h => h)
    refine .of_ok (restoreHook_apply E howned hv.1) ⟨⟨hv.1.borrowed, fun k hk => ?_⟩,
      hv.2.imp fun _ hc => hc.putBack hh⟩
    rw [← Option.some.inj hk]
    cases hv' : v.ambient.hook with
    | none => exact howned
    | some other => exact hv.1.hook other hv'

/-- Whatever is done, calls for a hook are honored. -/
theorem hooked_universal : (hooked L).Universal where
  quiet hx := hx.hooked
  held hx := Aloof.hooked fun w => by
    obtain ⟨f, hf, -⟩ := hx w
    rw [hf]
    rfl
  withdraw c := (untrackObject_mild _).aloof.hooked
  report release run := writeUnraisable_hooked release run
  cut _ := trivial

/-! ## Reports in runs -/

theorem honorsCalls_of_kept {x : Effect L α} {w : World L} (hx : (hooked L).Kept x) (hw : w.Orderly) :
    HonorsCalls x w := by
  have h := hx w hw
  refine ⟨fun a v hv => (h.ok hv).2, fun m v hv => ?_⟩
  have hpanic := h.holds
  rw [hv] at hpanic
  exact hpanic.2

/-- When a report is over, in the midst of any run, the hook is in force that was asked for last, before the
report or during it, unless it was a removal; it can be lost to a panic. The same is true of everything else
that a client does. -/
theorem hook_in_force {clock : Nat} {v : World L} (hv : Moment {} (World.fresh clock) v) (n : Nat) :
    (∀ object e, HonorsCalls (writeUnraisable (.ofDepth L n) object e) v) ∧
      ∀ {α : Type} {k : Option CoroutineId} {x : Procedure L α}, Client k x →
        HonorsCalls (x (.ofDepth L n)) v := by
  have hE := hooked_universal.ofDepth (L := L) n
  have hw := (hv.tended ⟨0⟩).orderly
  exact ⟨fun object e => honorsCalls_of_kept (hooked_universal.report hE.release (hE.run none) object e) hw,
    fun hx => honorsCalls_of_kept (hooked_universal.client hE hx) hw⟩

section

open Script (Block)

/-- A body that does something when it is closed. -/
def executor (last : Block) : Block := [.attempt [.yield .none none] [.mk none none false last] []]

/-- Starts a body, and installs a hook that lets go of its coroutine. -/
def arm (last : Block) (E : Engine Script.language) : Effect Script.language Unit := do
  launch "victim" (executor last) E
  let _ ← perform E .outer (.installHook "victim")

theorem arm_client (last : Block) : Client none (arm last) :=
  .bind (launch_client _ _) fun _ => .bind (Client.perform .outer _) fun _ => .pure ()

/-- The world in which the hook waits for a report. -/
def armed (last : Block) : World Script.language := (arm last (.watched _ {} 40) (World.fresh 1000)).2

theorem armed_moment (last : Block) : Moment {} (World.fresh 1000) (armed last) :=
  .of (x := arm last) 40 .refl (arm_client last)

/-- The report of a new error. -/
def complain (E : Engine Script.language) : Effect Script.language Answered :=
  perform E .outer (.writeUnraisable "report" (.exception (.builtinClass "ValueError") []))

/-- The world after the report of an error. -/
def World.reported (w : World Script.language) : World Script.language := (complain (.ofDepth _ 40) w).2

/-- A hook that is removed while it handles a report, is installed afterwards; one that dies from what it
lets go of, is not, though nobody has removed it. -/
theorem hook_not_in_force :
    (∃ v : World Script.language, Moment {} (World.fresh 1000) v ∧ v.ambient.hook.isSome = true ∧
      v.reported.ambient.asked.map (·.isSome) = [false, true] ∧
      v.reported.ambient.hook.isSome = true) ∧
    ∃ v : World Script.language, Moment {} (World.fresh 1000) v ∧ v.ambient.hook.isSome = true ∧
      v.reported.ambient.asked.map (·.isSome) = [true] ∧
      v.reported.ambient.hook.isSome = false := by
  refine ⟨⟨_, armed_moment [.perform (.installHook noHookMode) none], ?_⟩,
    ⟨_, armed_moment [.panic "body died"], ?_⟩⟩
  · decide +kernel
  · decide +kernel

/-- Another hook is asked for while a report is handled. -/
theorem hook_in_force_replaced :
    Moment {} (World.fresh 1000) (armed [.perform (.installHook "other") none]) ∧ Client none complain ∧
      (complain (.ofDepth _ 40) (armed [.perform (.installHook "other") none])).1 ≠ .stop ∧
      (armed [.perform (.installHook "other") none]).reported.ambient.hook.map (·.mode) = some "other" ∧
      HonorsCalls (complain (.ofDepth _ 40)) (armed [.perform (.installHook "other") none]) := by
  have hclient : Client none complain := Client.perform .outer _
  have hmoment := armed_moment [.perform (.installHook "other") none]
  exact ⟨hmoment, hclient, by decide +kernel, by decide +kernel, (hook_in_force hmoment 40).2 hclient⟩

end

end CoroutineEngine
