import CoroutineEngine.Proofs.Handles

/-!
# The arguments of a throw

A throw takes a class or an instance, an argument and a traceback. They make one consistent triple, or an error
that says which of them cannot be used; the traceback is looked at first, and nothing has been touched by the time
an error is made.

Results:
* `throw_normalized`: which arguments make a triple, which triple it is, and what happens where they do not.
-/

namespace CoroutineEngine

variable {L : Language}

/-! ## Definitions -/

namespace Value

/-- A traceback, or nothing. -/
def IsTraceback (v : Value) : Prop := v = .none ∨ ∃ t, v = .traceback t

/-- The arguments of the instance that a class makes of a value: none, the items of a tuple, or the value. -/
def arguments : Value → List Value
  | .none => []
  | .tuple _ items => items
  | v => [v]

/-- The items of a tuple. -/
def items : Value → List Value
  | .tuple _ items => items
  | _ => []

end Value

/-- The arguments that a throw takes. -/
def IsThrowable (kind value traceback : Value) : Prop :=
  traceback.IsTraceback ∧ ((∃ cls, kind = .exceptionClass cls) ∨ (∃ e, kind = .exception e) ∧ value = .none)

/-- What is wrong with other arguments; the traceback is checked first. -/
inductive Misfit : Value → Value → Value → CoroutineError → Prop
  | traceback {kind value traceback : Value} :
      ¬ traceback.IsTraceback → Misfit kind value traceback .badTraceback
  | value {e : Exception} {value traceback : Value} :
      traceback.IsTraceback → value ≠ .none → Misfit (.exception e) value traceback .instanceWithValue
  | kind {kind value traceback : Value} :
      traceback.IsTraceback → (∀ cls, kind ≠ .exceptionClass cls) → (∀ e, kind ≠ .exception e) →
      Misfit kind value traceback (.notAnException kind.typeName)

/-- The instance that is thrown, if one is given: the first argument, or an instance of the class that is. -/
def givenInstance? : Value → Value → Option Exception
  | .exception e, _ => some e
  | .exceptionClass cls, .exception e => if e.cls.isSubclassOf cls then some e else none
  | _, _ => none

/-- Whoever makes the request has a handle of the first two arguments, and a tuple one of each item. -/
structure World.Provides (w : World L) (kind value : Value) : Prop where
  first : w.Holds 0 kind
  second : w.Holds 0 value
  items : ∀ x ∈ value.items, w.Holds 0 x

/-- The triple `p`, that arguments make in a world `w` and that leaves `v` behind, with its instance `e`.

* `triple`: its kind is the class of the instance, and its traceback that of the instance.
* `matching`: the instance belongs to the class that was asked for.
* `given`, `made`: it is the very instance that was given, or else a new one of just that class.
* `supplied`, `kept`: a traceback that is supplied becomes the instance's; else it keeps its own.
* `spared`: no other instance is changed, and of the given one nothing but its traceback.
* `again`: normalizing the instance gives the triple again, and changes no instance.
* `raised`: raising the triple gives the instance with that traceback, and changes no instance. -/
structure Normalized (E : Engine L) (kind value traceback : Value) (w : World L) (p : PendingException)
    (e : Exception) (v : World L) : Prop where
  triple : p = ⟨e.cls, some e, (v.exception e).traceback⟩
  matching : ∀ cls, kind = .exceptionClass cls → e.cls.isSubclassOf cls
  given : ∀ e', givenInstance? kind value = some e' → e = e'
  made : givenInstance? kind value = none →
    w.exceptions.size ≤ e.index ∧ kind = .exceptionClass e.cls ∧
      (v.exception e).content = ⟨0, value.arguments, none, none, false, (v.exception e).traceback⟩
  supplied : ∀ t, traceback = .traceback t → (v.exception e).traceback = some t
  kept : traceback = .none →
    (v.exception e).traceback = (givenInstance? kind value).bind fun e' => (w.exception e').traceback
  spared : ∀ e' : Exception, e'.index < w.exceptions.size → (v.exception e').content =
    if e'.index = e.index then { (w.exception e').content with traceback := (v.exception e).traceback }
    else (w.exception e').content
  again : ∃ u, normalizeThrow E (.exception e) .none .none v = (.ok (.ok p), u) ∧ v.SameInstances u
  raised : ∃ u, p.instantiate v = (.ok e, u) ∧ v.SameInstances u

/-- What becomes of the arguments of a throw in a world.

* `succeeds`: there is a triple just if the throw takes the arguments.
* `consistent`: the triple, if there is one.
* `fails`: otherwise an error is made, and every instance is as it was; then the argument that was handed
  over is given up, and nothing else happens.
* `harmless`: unless that is the last handle of the argument, no instance is changed by that either. -/
structure NormalizesThrow (E : Engine L) (kind value traceback : Value) (w : World L) : Prop where
  succeeds : (∃ p v, normalizeThrow E kind value traceback w = (.ok (.ok p), v)) ↔
    IsThrowable kind value traceback
  consistent : ∀ p v, normalizeThrow E kind value traceback w = (.ok (.ok p), v) →
    ∃ e, Normalized E kind value traceback w p e v
  fails : ¬ IsThrowable kind value traceback →
    ∃ error e v, Misfit kind value traceback error ∧ e.cls = error.exceptionClass ∧
      (∃ id, (v.exception e).args = [.str ⟨id, error.message⟩]) ∧ w.exceptions.size ≤ e.index ∧
      (∀ e' : Exception, e'.index < w.exceptions.size → v.exception e' = w.exception e') ∧
      normalizeThrow E kind value traceback w = (do
        E.owning [.exception e] (E.release value)
        return .error e : Effect L (Except Exception PendingException)) v
  harmless : ¬ IsThrowable kind value traceback → w.Holds 1 value →
    ∃ e v, normalizeThrow E kind value traceback w = (.ok (.error e), v) ∧ 
      ∀ e' : Exception, e'.index < w.exceptions.size → (v.exception e').content = (w.exception e').content

/-- An instance that arguments come down to, before a traceback is put on it. -/
structure Chosen (kind value : Value) (w : World L) (e : Exception) (v : World L) : Prop where
  size : e.index < v.exceptions.size
  matching : ∀ cls, kind = .exceptionClass cls → e.cls.isSubclassOf cls
  given : ∀ e', givenInstance? kind value = some e' → e = e' ∧ e.index < w.exceptions.size
  made : givenInstance? kind value = none →
    w.exceptions.size ≤ e.index ∧ kind = .exceptionClass e.cls ∧
      (v.exception e).content = ⟨0, value.arguments, none, none, false, none⟩
  spared : ∀ e' : Exception, e'.index < w.exceptions.size →
    (v.exception e').content = (w.exception e').content

/-- Puts a traceback on an instance, if there is one, and makes the triple. -/
def adopt (traceback : Option Traceback) (e : Exception) :
    Effect L (Except Exception PendingException) := do
  if traceback.isSome then
    setTraceback e traceback
  return .ok (← pendingOf e)

/-! ## Helpers -/

variable {E F G : Engine L} {kind value traceback : Value} {w v u : World L} {e : Exception}
  {p : PendingException} {t : Option Traceback}

theorem isTraceback_iff : traceback.IsTraceback ↔ (tracebackOperand? traceback).isSome := by
  cases traceback <;> simp [Value.IsTraceback, tracebackOperand?]

/-- A throw takes its arguments, or something is wrong with them. -/
theorem misfit_of_not_throwable (h : ¬ IsThrowable kind value traceback) :
    ∃ error, argumentError? kind value traceback = some error ∧ Misfit kind value traceback error := by
  by_cases ht : traceback.IsTraceback
  · have hsome := isTraceback_iff.1 ht
    unfold argumentError?
    rw [if_neg (by simpa [Option.isSome_iff_ne_none] using hsome)]
    cases kind with
    | exceptionClass cls => exact absurd ⟨ht, .inl ⟨cls, rfl⟩⟩ h
    | exception e =>
      have hv : value ≠ .none := fun hv => h ⟨ht, .inr ⟨⟨e, rfl⟩, hv⟩⟩
      refine ⟨_, if_neg fun hn => ?_, .value ht hv⟩
      cases value <;> first | exact hv rfl | exact absurd hn (by simp [Value.isNone])
    | _ => exact ⟨_, rfl, .kind ht (by simp) (by simp)⟩
  · refine ⟨_, if_pos ?_, .traceback ht⟩
    rw [isTraceback_iff] at ht
    simpa using ht

theorem count_makeException {cls : ExceptionClass} {args : List Value} {o : Counted} (h : 0 < w.count o)
    (hmade : makeException cls args w = (.ok e, v)) : v.count o = w.count o := by
  cases hmade
  cases o with
  | exception index =>
    exact congrArg ExceptionRecord.handles
      (Table.get_push_lt _ _ (exception_lt_size (e := ⟨index, cls⟩) fun _ ho => Option.mem_some.1 ho ▸ h))
  | _ => rfl

/-- Making an error leaves everything as it is. -/
theorem raise_apart {error : CoroutineError} (h : error.raise w = (.ok e, v)) :
    e.cls = error.exceptionClass ∧ (∃ id, (v.exception e).args = [.str ⟨id, error.message⟩]) ∧
      w.exceptions.size ≤ e.index ∧
      (∀ e' : Exception, e'.index < w.exceptions.size → v.exception e' = w.exception e') ∧
      ∀ o, 0 < w.count o → v.count o = w.count o := by
  have hmade : makeException error.exceptionClass [.str ⟨w.serial, error.message⟩]
      { w with serial := w.serial + 1 } = (.ok e, v) := h
  obtain ⟨hcls, -, id, hmessage⟩ := (raise_fresh error w).ok h
  refine ⟨hcls, ⟨id, congrArg (·.args) hmessage⟩, ?_, fun e' he' => ?_, fun o ho => ?_⟩
  · cases h
    exact Nat.le_refl _
  · cases h
    exact Table.get_push_lt _ _ he'
  · rw [count_makeException (w := { w with serial := w.serial + 1 }) (by cases o <;> exact ho) hmade]
    cases o <;> rfl

/-- A throw with arguments that it does not take makes an error and gives the argument up. -/
theorem normalizeThrow_fails (h : ¬ IsThrowable kind value traceback) (w : World L) :
    ∃ error e v, Misfit kind value traceback error ∧ error.raise w = (.ok e, v) ∧
      normalizeThrow E kind value traceback w = (do
        E.owning [.exception e] (E.release value)
        return .error e : Effect L (Except Exception PendingException)) v := by
  obtain ⟨error, herror, hmisfit⟩ := misfit_of_not_throwable h
  obtain ⟨e, v, hraised, -⟩ := Discards.raise (i := ⟨0⟩) error w
  refine ⟨error, e, v, hmisfit, hraised, ?_⟩
  rw [normalizeThrow_rejected herror, refuse, Effect.bind_ok hraised, releaseAll_single]

/-! ### Instances -/

theorem Chosen.of_made {cls : ExceptionClass} {x : Effect L Exception}
    (hgiven : givenInstance? (.exceptionClass cls) value = none)
    (hx : x w = makeException cls value.arguments w) :
    ∃ e v, x w = (.ok e, v) ∧ Chosen (.exceptionClass cls) value w e v := by
  refine ⟨_, _, hx, ?_, ?_, ?_, ?_, ?_⟩
  · simp
  · rintro _ ⟨⟩
    exact ExceptionClass.isSubclassOf_refl _
  · rw [hgiven]
    nofun
  · exact fun _ => ⟨Nat.le_refl _, rfl, congrArg _ (Table.get_push_self _ _)⟩
  · exact fun e' he' => congrArg _ (Table.get_push_lt _ _ he')

/-- What is done besides does not matter, as long as no instance is made or changed. -/
theorem Chosen.after (h : Chosen kind value v e u) (hw : w.SameInstances v) : Chosen kind value w e u where
  size := h.size
  matching := h.matching
  given e' he' := ⟨(h.given e' he').1, hw.size ▸ (h.given e' he').2⟩
  made hn := hw.size ▸ h.made hn
  spared e' he' := (h.spared e' (hw.size ▸ he')).trans (hw.content e')

theorem Chosen.before (h : Chosen kind value w e v) (hv : v.SameInstances u) : Chosen kind value w e u where
  size := hv.size ▸ h.size
  matching := h.matching
  given := h.given
  made hn := ⟨(h.made hn).1, (h.made hn).2.1, (hv.content e).trans (h.made hn).2.2⟩
  spared e' he' := (hv.content e').trans (h.spared e' he')

theorem Chosen.of_given (hgiven : givenInstance? kind value = some e) (hsize : e.index < w.exceptions.size)
    (hmatching : ∀ cls, kind = .exceptionClass cls → e.cls.isSubclassOf cls) (hv : w.SameInstances v) :
    Chosen kind value w e v where
  size := hv.size ▸ hsize
  matching := hmatching
  given _ he' := ⟨Option.some.inj (hgiven.symm.trans he'), hsize⟩
  made hn := absurd (hgiven.symm.trans hn) nofun
  spared e' _ := hv.content e'

/-- A class and an argument come down to an instance. -/
theorem instanceOf_chosen (hE : ∀ y, E.release y = releaseHandle F y)
    (hF : ∀ y, F.release y = releaseHandle G y) {cls : ExceptionClass}
    (hw : w.Provides (.exceptionClass cls) value) :
    ∃ e v, instanceOf E cls value w = (.ok e, v) ∧ Chosen (.exceptionClass cls) value w e v := by
  cases value with
  | none => exact Chosen.of_made rfl rfl
  | tuple identity items =>
    have hitems : ∀ x ∈ items, w.Holds 0 x := hw.items
    obtain ⟨v, hretained, hsame, hcounts⟩ := retainAll_counts hitems
    obtain ⟨e, u, hmade, hchosen⟩ : ∃ e u, makeException cls items v = (.ok e, u) ∧
        Chosen (.exceptionClass cls) (.tuple identity items) v e u := Chosen.of_made rfl rfl
    have hcount (o : Counted) (ho : 0 < w.count o) : u.count o = w.count o + handlesIn o items := by
      rw [← hcounts o]
      refine count_makeException ?_ hmade
      rw [hcounts o]
      exact Nat.lt_of_lt_of_le ho (Nat.le_add_right _ _)
    have hlive : 0 < w.count (.tuple identity) := hw.second _ rfl
    have hheld : 0 < u.count (.tuple identity) := by
      rw [hcount _ hlive]
      exact Nat.lt_of_lt_of_le hlive (Nat.le_add_right _ _)
    have hspare (o : Counted) (ho : 0 < handlesIn o items) : handlesIn o items < u.count o := by
      obtain ⟨x, hx, hxo⟩ := List.countP_pos_iff.1 ho
      have hxlive := hitems x hx o (by simpa using hxo)
      rw [hcount o hxlive]
      omega
    obtain ⟨u', hreleased, hsame'⟩ := release_tuple_spare hE hF hheld hspare
    refine ⟨e, u', ?_, (hchosen.after hsame).before hsame'⟩
    refine (Effect.bind_ok hretained _).trans ((Effect.bind_ok hmade _).trans ?_)
    exact (Effect.bind_ok (Effect.onPanic_ok hreleased) _)
  | exception e =>
    by_cases hc : e.cls.isSubclassOf cls = true
    · refine ⟨e, w, congrFun (if_pos hc) w, .of_given (if_pos hc) (exception_lt_size hw.second) ?_ (.refl w)⟩
      rintro _ ⟨⟩
      exact hc
    · exact Chosen.of_made (if_neg hc) (congrFun (if_neg hc) w)
  | _ => exact Chosen.of_made rfl rfl

/-- An instance is what it was but for its traceback, if there is one to put on it. -/
theorem adopt_puts (ht : e.index < v.exceptions.size) (t : Option Traceback) :
    ∃ u, adopt t e v = (.ok (.ok ⟨e.cls, some e, (u.exception e).traceback⟩), u) ∧
      u.exceptions.size = v.exceptions.size ∧
      u.exception e = { v.exception e with traceback := t.or (v.exception e).traceback } ∧
      ∀ e' : Exception, e'.index ≠ e.index → u.exception e' = v.exception e' := by
  cases t with
  | none => exact ⟨v, rfl, rfl, rfl, fun _ _ => rfl⟩
  | some t =>
    exact ⟨_, rfl, by simp [World.modifyException], Table.get_modify_self _ _ ht,
      fun e' he' => Table.get_modify_ne _ _ he'⟩

/-- Normalizing an instance alone makes its triple. -/
theorem normalizeThrow_instance (E : Engine L) (e : Exception) (v : World L) :
    normalizeThrow E (.exception e) .none .none v =
      (.ok (.ok ⟨e.cls, some e, (v.exception e).traceback⟩), v.retain (.exception e)) := by
  have hsame := exception_modified v e e (f := fun r => { r with handles := r.handles + 1 })
    ExceptionRecord.traceback fun _ => rfl
  exact congrArg
    (fun t => (Outcome.ok (Except.ok (PendingException.mk e.cls (some e) t)), v.retain (.exception e))) hsame

/-- Raising the triple of an instance leaves the instance as it is. -/
theorem instantiate_same (e : Exception) (v : World L) :
    ∃ u, (PendingException.mk e.cls (some e) (v.exception e).traceback).instantiate v = (.ok e, u) ∧
      v.SameInstances u := by
  cases ht : (v.exception e).traceback with
  | none => exact ⟨v, rfl, .refl v⟩
  | some t =>
    refine ⟨_, rfl, by simp [World.modifyException], fun e' => congrArg _ ?_⟩
    have hsame : v.exceptions.modify e.index (fun r => { r with traceback := some t }) =
        v.exceptions.modify e.index id :=
      Table.modify_congr _ _ (by rw [id, ← ht]; rfl)
    simp only [World.exception, World.modifyException, hsame]
    exact exception_modified v e e' id fun _ => rfl

/-- What becomes of the arguments once they have come down to an instance. -/
theorem Chosen.normalized {x : Effect L Exception} (hchosen : Chosen kind value w e v)
    (hx : x w = (.ok e, v)) (ht : tracebackOperand? traceback = some t)
    (hthrow : normalizeThrow E kind value traceback w = (x >>= adopt t) w) :
    ∃ p u, normalizeThrow E kind value traceback w = (.ok (.ok p), u) ∧
      Normalized E kind value traceback w p e u := by
  obtain ⟨u, hu, hsize, hself, hothers⟩ := adopt_puts hchosen.size t
  have hcontent : (u.exception e).content =
      { (v.exception e).content with traceback := (u.exception e).traceback } := by
    rw [hself]
    rfl
  refine ⟨_, u, hthrow.trans ((Effect.bind_ok hx _).trans hu), rfl, hchosen.matching,
    fun e' he' => (hchosen.given e' he').1, fun hn => ?_, ?_, ?_, fun e' he' => ?_, ?_, instantiate_same e u⟩
  · obtain ⟨hnew, hkind, hmade⟩ := hchosen.made hn
    exact ⟨hnew, hkind, by rw [hcontent, hmade]⟩
  · rintro t' rfl
    cases ht
    rw [hself]
    rfl
  · rintro rfl
    cases ht
    rw [hself]
    cases hgiven : givenInstance? kind value with
    | none => exact congrArg ExceptionRecord.traceback (hchosen.made hgiven).2.2
    | some e' =>
      obtain ⟨rfl, hold⟩ := hchosen.given e' hgiven
      exact congrArg (·.traceback) (hchosen.spared e hold)
  · split
    · next h =>
      have hrecord (w : World L) : w.exception e' = w.exception e := by
        rw [World.exception, World.exception, h]
      have hspared := hchosen.spared e' he'
      rw [hrecord, hrecord] at hspared
      rw [hrecord, hrecord, hcontent, hspared]
    · next h => rw [hothers e' h, hchosen.spared e' he']
  · exact ⟨_, normalizeThrow_instance E e u, .retain u _⟩

/-- A throw that takes its arguments makes a triple of them. -/
theorem normalizeThrow_makes (hE : ∀ y, E.release y = releaseHandle F y)
    (hF : ∀ y, F.release y = releaseHandle G y) (hw : w.Provides kind value)
    (h : IsThrowable kind value traceback) :
    ∃ p u e, normalizeThrow E kind value traceback w = (.ok (.ok p), u) ∧
      Normalized E kind value traceback w p e u := by
  obtain ⟨htraceback, hkind⟩ := h
  obtain ⟨t, ht⟩ := Option.isSome_iff_exists.1 (isTraceback_iff.1 htraceback)
  rcases hkind with ⟨cls, rfl⟩ | ⟨⟨e, rfl⟩, rfl⟩
  · obtain ⟨e, v, hv, hchosen⟩ := instanceOf_chosen hE hF hw
    obtain ⟨p, u, hu, hnormalized⟩ := hchosen.normalized hv ht (by rw [normalizeThrow, ht]; rfl)
    exact ⟨p, u, e, hu, hnormalized⟩
  · have hchosen : Chosen (.exception e) .none w e (w.retain (.exception e)) :=
      .of_given rfl (exception_lt_size hw.first) nofun (.retain w _)
    obtain ⟨p, u, hu, hnormalized⟩ := hchosen.normalized (x := do retain (.exception e); return e) rfl ht
      (E := E) (by rw [normalizeThrow, ht]; rfl)
    exact ⟨p, u, e, hu, hnormalized⟩

/-! ## The arguments of a throw -/

/-- A throw makes a triple just if it takes its arguments. -/
theorem normalizeThrow_ok_iff (hE : ∀ y, E.release y = releaseHandle F y)
    (hF : ∀ y, F.release y = releaseHandle G y) (hw : w.Provides kind value) :
    (∃ p v, normalizeThrow E kind value traceback w = (.ok (.ok p), v)) ↔
      IsThrowable kind value traceback := by
  refine ⟨fun ⟨p, v, h⟩ => ?_, fun h => ?_⟩
  · by_contra hn
    obtain ⟨_, e, u, _, _, hu⟩ := normalizeThrow_fails (E := E) hn w
    have herror : Meets (do
        E.owning [.exception e] (E.release value)
        return .error e : Effect L (Except Exception PendingException)) u
        (.promise fun r _ => r = .error e) := .then_ok fun _ _ _ => .pure rfl
    exact absurd (herror.ok (hu.symm.trans h)) nofun
  · obtain ⟨p, u, e, hu, -⟩ := normalizeThrow_makes hE hF hw h
    exact ⟨p, u, hu⟩

/-- Whatever the arguments of a throw are, and whatever they are held by: the throw makes one consistent
triple of them, or an error that says what is wrong with them. -/
theorem throw_normalized (n : Nat) {kind value : Value} (traceback : Value) {w : World L}
    (hw : w.Provides kind value) : NormalizesThrow (.ofDepth L (n + 2)) kind value traceback w := by
  have hE (y : Value) : (Engine.ofDepth L (n + 2)).release y = releaseHandle (.ofDepth L (n + 1)) y := rfl
  have hF (y : Value) : (Engine.ofDepth L (n + 1)).release y = releaseHandle (.ofDepth L n) y := rfl
  refine ⟨normalizeThrow_ok_iff hE hF hw, fun p v h => ?_, fun h => ?_, fun h hvalue => ?_⟩
  · obtain ⟨p', u, e, hu, hnormalized⟩ :=
      normalizeThrow_makes hE hF hw ((normalizeThrow_ok_iff hE hF hw).1 ⟨p, v, h⟩)
    cases h.symm.trans hu
    exact ⟨e, hnormalized⟩
  · obtain ⟨error, e, v, hmisfit, hraised, hv⟩ := normalizeThrow_fails h w
    obtain ⟨hcls, hmessage, hnew, hold, -⟩ := raise_apart hraised
    exact ⟨error, e, v, hmisfit, hcls, hmessage, hnew, hold, hv⟩
  · obtain ⟨error, e, v, -, hraised, hv⟩ := normalizeThrow_fails (E := .ofDepth L (n + 2)) h w
    obtain ⟨-, -, -, hold, hcount⟩ := raise_apart hraised
    have hshared : v.Holds 1 value := fun o ho => by
      rw [hcount o (Nat.lt_trans Nat.one_pos (hvalue o ho))]
      exact hvalue o ho
    obtain ⟨u, hu, hsame, -⟩ := releaseHandle_counts (E := .ofDepth L (n + 1)) hshared
    refine ⟨e, u, hv.trans (Effect.bind_ok (Effect.onPanic_ok hu) _), fun e' he' => ?_⟩
    rw [hsame.content e', hold e' he']

/-- A tuple of an instance and a number, whose handle goes to a throw. -/
def packed : World Script.language :=
  ((do makeTuple [.exception (← makeException .valueError []), .int 1]) (World.fresh 1000)).2

theorem throw_normalized_packed :
    packed.Provides (.exceptionClass .typeError) (.tuple 0 [.exception ⟨0, .valueError⟩, .int 1]) ∧
      NormalizesThrow (.ofDepth Script.language 40) (.exceptionClass .typeError)
        (.tuple 0 [.exception ⟨0, .valueError⟩, .int 1]) .none packed := by
  have hprovides : packed.Provides (.exceptionClass .typeError)
      (.tuple 0 [.exception ⟨0, .valueError⟩, .int 1]) := by
    refine ⟨nofun, fun o ho => ?_, fun x hx o ho => ?_⟩
    · cases ho
      decide
    · simp only [Value.items, List.mem_cons, List.not_mem_nil, or_false] at hx
      rcases hx with rfl | rfl
      · cases ho
        decide
      · cases ho
  exact ⟨hprovides, throw_normalized 38 .none hprovides⟩

end CoroutineEngine
