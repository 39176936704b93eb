import CoroutineEngine.Toml.Document
import Mathlib.Data.List.Basic

/-!
# Reading documents back

A document of sections with one value each is read back from its text, whichever sections are there. A
scalar is tried as one form after another, so of a value it has to be known that no earlier form accepts
it: a number looks like the beginning of a date, of a time of day and of a floating-point number.

Results:
* `simpleValue_number`, `simpleValue_quoted`: scalars are read back.
* `writes_header`, `writes_entry`: so are the lines with them.
* `document?_sections`: so are whole documents.
-/

namespace CoroutineEngine.Toml

open Reader

/-! ## Readers -/

namespace Reader

variable {α β : Type} {x y : Reader α} {f : α → Reader β} {p : Char → Bool} {c : Char}
  {s t : List Char} {a : α}

theorem bind_some (h : x s = some (a, t)) : (x >>= f) s = f a t := by
  simp [bind, StateT.bind, h]

theorem bind_none (h : x s = none) : (x >>= f) s = none := by
  simp [bind, StateT.bind, h]

theorem map_some (g : α → β) (h : x s = some (a, t)) : (g <$> x) s = some (g a, t) := by
  simp [Functor.map, StateT.map, h]

theorem map_none (g : α → β) (h : x s = none) : (g <$> x) s = none := by
  simp [Functor.map, StateT.map, h]

theorem discard_some (h : x s = some (a, t)) : discard x s = some ((), t) := map_some _ h

theorem discard_none (h : x s = none) : discard x s = none := map_none _ h

theorem seqRight_some {z : Reader β} (h : x s = some (a, t)) : (x *> z) s = z t := bind_some h

theorem seqRight_none {z : Reader β} (h : x s = none) : (x *> z) s = none := bind_none h

theorem orElse_some (h : x s = some (a, t)) : orElse x y s = some (a, t) := by
  simp [orElse, h]

theorem orElse_none (h : x s = none) : orElse x y s = y s := by
  simp [orElse, h]

theorem firstOf_some {xs : List (Reader α)} (h : x s = some (a, t)) :
    firstOf (x :: xs) s = some (a, t) :=
  orElse_some h

theorem firstOf_none {xs : List (Reader α)} (h : x s = none) : firstOf (x :: xs) s = firstOf xs s :=
  orElse_none h

theorem maybe_none (h : x s = none) : maybe x s = some (none, s) := by
  simp [maybe, h]

theorem many_none (h : x s = none) : many x s = some ([], s) := by
  unfold many
  cases s with
  | nil => rfl
  | cons c s => simp [upTo, h]

theorem many_one (h : x s = some (a, t)) (hlt : t.length < s.length) (ht : x t = none) :
    many x s = some ([a], t) := by
  unfold many
  cases s with
  | nil => simp at hlt
  | cons c s =>
    have hrest : upTo x s.length t = some ([], t) := by
      cases s with
      | nil => rfl
      | cons d s => simp [upTo, ht]
    simp [upTo, h, hrest]
    simpa using hlt

theorem separated_one {between : Reader Unit} (h : x s = some (a, t)) (ht : between t = none) :
    separated x between s = some ([a], t) := by
  have hmany : many (between *> x) t = some ([], t) :=
    many_none (seqRight_none ht)
  simp [separated, h, hmany]

theorem satisfying_some {q : α → Bool} (h : x s = some (a, t)) (hq : q a = true) :
    satisfying x q s = some (a, t) := by
  simp [satisfying, h, hq]

theorem item_none (h : ∀ c, s.head? = some c → p c = false) : item p s = none := by
  cases s with
  | nil => rfl
  | cons c s => simp [item, h c rfl]

theorem exactly_none (h : s.head? ≠ some c) : exactly c s = none := by
  cases s with
  | nil => rfl
  | cons d s =>
    have hd : d ≠ c := fun hd => h (by simp [hd])
    simp [exactly, hd]

theorem phrase_none {cs : List Char} (h : s.head? ≠ some c) : phrase (c :: cs) s = none :=
  bind_none (exactly_none h)

theorem head?_append_ne {cs rest : List Char} (hne : cs ≠ []) (h : ∀ c ∈ cs, p c = true) {e : Char}
    (he : p e = false) : (cs ++ rest).head? ≠ some e := by
  rw [List.head?_append_of_ne_nil _ hne]
  intro hc
  rw [h e (List.mem_of_head? hc)] at he
  cases he

theorem run1_append {cs rest : List Char} (hne : cs ≠ []) (h : ∀ c ∈ cs, p c = true)
    (hr : ∀ c, rest.head? = some c → p c = false) : run1 p (cs ++ rest) = some (cs, rest) := by
  cases cs with
  | nil => contradiction
  | cons c cs =>
    have hrun := run_append cs rest (fun d hd => h d (by simp [hd])) hr
    rw [run1, List.cons_append, bind_some (item_cons _ (h c (by simp))), bind_some hrun]
    rfl

theorem count_append {cs : List Char} (rest : List Char) (n : Nat) (h : ∀ c ∈ cs, p c = true)
    (hr : ∀ c, rest.head? = some c → p c = false) :
    count p n (cs ++ rest) = if n ≤ cs.length then some (cs.take n, cs.drop n ++ rest) else none := by
  induction n generalizing cs with
  | zero => rfl
  | succ n ih =>
    cases cs with
    | nil => exact bind_none (item_none hr)
    | cons c cs =>
      rw [count, List.cons_append, bind_some (item_cons _ (h c (by simp)))]
      have hlater := ih fun d (hd : d ∈ cs) => h d (by simp [hd])
      by_cases hn : n ≤ cs.length
      · rw [if_pos hn] at hlater
        rw [bind_some hlater]
        simp [hn]
        rfl
      · rw [if_neg hn] at hlater
        rw [bind_none hlater]
        simp [hn]

end Reader

theorem not_isBlank {p : Char → Bool} {c : Char} (h : p c = true) (hspace : p ' ' = false)
    (htab : p '\t' = false) : isBlank c = false := by
  rw [isBlank, Bool.or_eq_false_iff]
  constructor <;> refine beq_false_of_ne ?_ <;> rintro rfl <;> simp_all

/-- A character of a quoted text that needs no escape. -/
def isPlain (c : Char) : Bool := isInline c && c != '"' && c != '\\'

/-! ## Numbers -/

section

variable {cs ds rest s : List Char}

theorem isSpaced_digits (h : ∀ c ∈ ds, c.isDigit = true) (hne : ds ≠ []) :
    isSpaced Char.isDigit ds = true := by
  fun_induction isSpaced Char.isDigit ds with
  | case1 => exact absurd rfl hne
  | case2 c => exact h c (by simp)
  | case3 c rest ih => exact absurd (h '_' (by simp)) (by decide)
  | case4 c d rest hd ih =>
    rw [Bool.and_eq_true]
    exact ⟨h c (by simp), ih (fun e he => h e (by simp_all)) (by simp)⟩

theorem digits_append (h : ∀ c ∈ ds, c.isDigit = true) (hne : ds ≠ [])
    (hr : ∀ c, rest.head? = some c → c.isDigit = false ∧ c ≠ '_') :
    digits Char.isDigit (ds ++ rest) = some (ds, rest) := by
  have hrun : run1 (fun c => c.isDigit || c == '_') (ds ++ rest) = some (ds, rest) :=
    run1_append hne (fun c hc => by simp [h c hc]) (fun c hc => by simp [hr c hc])
  have hplain : ds.filter (· != '_') = ds := by
    rw [List.filter_eq_self]
    intro c hc
    have hdigit := h c hc
    simp only [bne_iff_ne, ne_eq]
    rintro rfl
    exact absurd hdigit (by decide)
  rw [digits, bind_some (satisfying_some hrun (isSpaced_digits h hne)), hplain]
  rfl

theorem magnitude_digits (h : ∀ c ∈ ds, c.isDigit = true) :
    magnitude 10 ds = Nat.ofDigitChars 10 ds 0 := by
  rw [magnitude, Nat.ofDigitChars_eq_foldl]
  refine List.foldl_ext _ _ 0 fun n c hc => ?_
  simp [hexValue, h c hc, Nat.mul_comm]

theorem isDigit_toDigits (n : Nat) : ∀ c ∈ Nat.toDigits 10 n, c.isDigit = true :=
  fun _ hc => Nat.isDigit_of_mem_toDigits (by decide) (by decide) hc

theorem toDigits_head {n : Nat} (hn : 0 < n) : (Nat.toDigits 10 n).head? ≠ some '0' := by
  induction n using Nat.strongRecOn with
  | ind n ih =>
    rw [Nat.toDigits_eq_if (by decide)]
    split
    · simp; omega
    · rw [List.head?_append_of_ne_nil _ Nat.toDigits_ne_nil]
      exact ih (n / 10) (by omega) (by omega)

theorem quotedLine_none {quote : Char} {piece : Reader (List Char)} (h : s.head? ≠ some quote) :
    quotedLine quote piece s = none :=
  bind_none (exactly_none h)

theorem quotedLines_none {quote : Char} {piece : Reader (List Char)}
    (h : phrase [quote, quote, quote] s = none) : quotedLines quote piece s = none :=
  bind_none h

theorem anyQuotedText_none (h : s.head? ≠ some '"') (h' : s.head? ≠ some '\'') :
    anyQuotedText s = none := by
  rw [anyQuotedText, firstOf_none (quotedLines_none (phrase_none h)),
    firstOf_none (quotedLines_none (phrase_none h')), firstOf_none]
  · rfl
  · rw [quotedText, orElse_none (quotedLine_none h)]
    exact quotedLine_none h'

/-- A text is read back from between its quotes if no character of it needs an escape. -/
theorem simpleValue_quoted (rest : List Char) (hne : cs ≠ []) (h : ∀ c ∈ cs, isPlain c = true) :
    simpleValue ('"' :: cs ++ '"' :: rest) = some (.text (String.ofList cs), rest) := by
  have hplain : plain (cs ++ '"' :: rest) = some (cs, '"' :: rest) :=
    run1_append hne h (by rintro c ⟨⟩; rfl)
  have hend : orElse plain escaped ('"' :: rest) = none := by
    have hquote : plain ('"' :: rest) = none := rfl
    rw [orElse_none hquote]
    exact bind_none (exactly_none (by simp))
  have hlength : ('"' :: rest).length < (cs ++ '"' :: rest).length := by
    have := List.length_pos_iff.mpr hne
    simp only [List.length_append]
    omega
  have hline : quotedLine '"' (orElse plain escaped) ('"' :: (cs ++ '"' :: rest)) =
      some (String.ofList cs, rest) := by
    rw [quotedLine, bind_some (exactly_cons ..), bind_some (many_one (orElse_some hplain) hlength hend),
      bind_some (exactly_cons ..), List.flatten_singleton]
    rfl
  have htriple : phrase ['"', '"', '"'] ('"' :: (cs ++ '"' :: rest)) = none := by
    rw [phrase, bind_some (exactly_cons ..)]
    exact phrase_none (head?_append_ne hne h rfl)
  refine firstOf_some (map_some _ ?_)
  rw [List.cons_append, anyQuotedText, firstOf_none (quotedLines_none htriple),
    firstOf_none (quotedLines_none (phrase_none (by simp)))]
  exact firstOf_some (orElse_some hline)

theorem head?_number_ne (rest : List Char) (h : ∀ c ∈ ds, c.isDigit = true) {e : Char}
    (he : e.isDigit = false) (hn : e ≠ '\n') : (ds ++ '\n' :: rest).head? ≠ some e := by
  cases ds with
  | nil => simpa using hn.symm
  | cons d ds =>
    have hd := h d (by simp)
    rintro ⟨⟩
    simp [he] at hd

theorem lineBreak_stops {p : Char → Bool} (hp : p '\n' = false) :
    ∀ c, ('\n' :: rest).head? = some c → p c = false := by
  rintro c ⟨⟩
  exact hp

theorem bounded_number (rest : List Char) (h : ∀ c ∈ ds, c.isDigit = true) (n low high : Nat) :
    bounded n low high (ds ++ '\n' :: rest) = none ∨
      ∃ v k, bounded n low high (ds ++ '\n' :: rest) = some (v, ds.drop k ++ '\n' :: rest) := by
  have hcount := count_append ('\n' :: rest) n h (lineBreak_stops (by decide))
  by_cases hn : n ≤ ds.length
  · rw [if_pos hn] at hcount
    rw [bounded, bind_some hcount]
    split
    · exact .inr ⟨_, n, rfl⟩
    · exact .inl rfl
  · rw [if_neg hn] at hcount
    exact .inl (bind_none hcount)

/-- Digits that make up all of a line are no beginning of a moment. -/
theorem moment_number (h : ∀ c ∈ ds, c.isDigit = true) : moment (ds ++ '\n' :: rest) = none := by
  have stops (k : Nat) {e : Char} (he : e.isDigit = false) (hn : e ≠ '\n') :
      exactly e (ds.drop k ++ '\n' :: rest) = none :=
    exactly_none (head?_number_ne rest (fun c hc => h c (List.mem_of_mem_drop hc)) he hn)
  have hdate : date (ds ++ '\n' :: rest) = none := by
    rcases bounded_number rest h 4 0 9999 with hb | ⟨v, k, hb⟩
    · exact bind_none hb
    · rw [date, bind_some hb]
      exact bind_none (stops k rfl (by decide))
  have htime : time (ds ++ '\n' :: rest) = none := by
    rcases bounded_number rest h 2 0 23 with hb | ⟨v, k, hb⟩
    · exact bind_none (discard_none hb)
    · rw [time, bind_some (discard_some hb)]
      exact bind_none (stops k rfl (by decide))
  refine bind_none ?_
  rw [orElse_none (bind_none hdate), htime]

theorem isNegative_number (rest : List Char) (h : ∀ c ∈ ds, c.isDigit = true) :
    isNegative (ds ++ '\n' :: rest) = some (false, ds ++ '\n' :: rest) := by
  have hplus := head?_number_ne rest h (e := '+') rfl (by decide)
  have hminus := head?_number_ne rest h (e := '-') rfl (by decide)
  have hsign : item (fun c => c == '+' || c == '-') (ds ++ '\n' :: rest) = none := by
    refine item_none fun c hc => ?_
    rw [hc] at hplus hminus
    simp_all
  rw [isNegative, bind_some (maybe_none hsign)]
  rfl

theorem decimal_number (rest : List Char) (n : Nat) :
    decimal (Nat.toDigits 10 n ++ '\n' :: rest) = some (Nat.toDigits 10 n, '\n' :: rest) := by
  refine satisfying_some (digits_append (isDigit_toDigits n) Nat.toDigits_ne_nil ?_) ?_
  · rintro c ⟨⟩
    decide
  · rcases Nat.eq_zero_or_pos n with rfl | hn
    · rfl
    · simp [toDigits_head hn]

/-- A number that a document can hold is read back from its digits. -/
theorem simpleValue_number {n : Nat} (hn : isStorable n = true) :
    simpleValue (Nat.toDigits 10 n ++ '\n' :: rest) = some (.integer n, '\n' :: rest) := by
  have hd := isDigit_toDigits n
  have head (e : Char) (he : e.isDigit = false) (hn : e ≠ '\n') := head?_number_ne rest hd he hn
  have hnegative := isNegative_number rest hd
  have hdecimal := decimal_number rest n
  have hboolean : boolean (Nat.toDigits 10 n ++ '\n' :: rest) = none := by
    rw [boolean, orElse_none (seqRight_none (phrase_none (head 't' rfl (by decide))))]
    exact seqRight_none (phrase_none (head 'f' rfl (by decide)))
  have hfinite : finiteFloat (Nat.toDigits 10 n ++ '\n' :: rest) = none := by
    rw [finiteFloat, bind_some hnegative, bind_some hdecimal]
    rfl
  have hspecial : specialFloat (Nat.toDigits 10 n ++ '\n' :: rest) = none := by
    rw [specialFloat, bind_some (discard_some hnegative)]
    refine bind_none ?_
    rw [orElse_none (phrase_none (head 'i' rfl (by decide)))]
    exact phrase_none (head 'n' rfl (by decide))
  rw [simpleValue, firstOf_none (map_none _ (anyQuotedText_none (head '"' rfl (by decide))
      (head '\'' rfl (by decide)))), firstOf_none hboolean, firstOf_none (moment_number hd),
    firstOf_none hfinite, firstOf_none hspecial, firstOf_some]
  have hbased (letter : Char) (hb : letter ≠ '\n') (base : Nat)
      (p : Char → Bool) : basedInteger letter base p (Nat.toDigits 10 n ++ '\n' :: rest) = none := by
    refine bind_none ?_
    rcases Nat.eq_zero_or_pos n with rfl | hn
    · rw [phrase, Nat.toDigits_zero, List.singleton_append, bind_some (exactly_cons ..)]
      exact phrase_none (by simpa using hb.symm)
    · refine phrase_none ?_
      rw [List.head?_append_of_ne_nil _ Nat.toDigits_ne_nil]
      exact toDigits_head hn
  rw [integer, firstOf_none (hbased 'x' (by decide) ..), firstOf_none (hbased 'o' (by decide) ..),
    firstOf_none (hbased 'b' (by decide) ..), firstOf_some]
  rw [decimalInteger, bind_some hnegative, bind_some hdecimal]
  simp [magnitude_digits hd, hn]
  rfl

end

/-! ## Lines -/

/-- A text that is a key without quotes. -/
def isKey (s : String) : Bool := !s.toList.isEmpty && s.toList.all isBare

/-- A text on which a value ends its line. -/
structure ReadsAs (s : String) (v : Value) : Prop where
  start : ∀ c, s.toList.head? = some c → isBlank c = false
  value : ∀ rest, simpleValue (s.toList ++ '\n' :: rest) = some (v, '\n' :: rest)

theorem isKey_iff {s : String} :
    isKey s = true ↔ s.toList ≠ [] ∧ ∀ c ∈ s.toList, isBare c = true := by
  simp [isKey]

theorem readsAs_number {n : Nat} (hn : isStorable n = true) : ReadsAs (toString n) (.integer n) where
  start := by
    intro c hc
    rw [Nat.toString_eq_ofList_toDigits, String.toList_ofList] at hc
    exact not_isBlank (isDigit_toDigits n c (List.mem_of_head? hc)) rfl rfl
  value := by
    intro rest
    rw [Nat.toString_eq_ofList_toDigits, String.toList_ofList]
    exact simpleValue_number hn

theorem readsAs_truth (b : Bool) : ReadsAs (if b then "true" else "false") (.boolean b) := by
  cases b <;> exact ⟨by rintro c ⟨⟩; rfl, fun _ => rfl⟩

theorem readsAs_quoted {s : String} (hne : s.toList ≠ []) (h : ∀ c ∈ s.toList, isPlain c = true) :
    ReadsAs ("\"" ++ s ++ "\"") (.text s) where
  start := by simp [isBlank]
  value := by
    intro rest
    simpa using simpleValue_quoted ('\n' :: rest) hne h

section

variable {cs rest : List Char} {v : Value}

/-- A line of a document is read from a text. -/
def Writes (cs : List Char) (l : Line) : Prop := ∀ rest, line (cs ++ '\n' :: rest) = some (l, rest)

theorem blanks_none {s : List Char} (h : ∀ c, s.head? = some c → isBlank c = false) :
    blanks s = some ((), s) :=
  discard_some (run_append [] s (by simp) h)

theorem blanks_one {s : List Char} (h : ∀ c, s.head? = some c → isBlank c = false) :
    blanks (' ' :: s) = some ((), s) :=
  discard_some (run_append [' '] s (by simp [isBlank]) h)

theorem lineEnd_break : lineEnd ('\n' :: rest) = some ((), rest) := rfl

theorem writes_of_content {l : Line} (hb : ∀ c, cs.head? = some c → isBlank c = false)
    (h : ∀ rest, lineContent (cs ++ '\n' :: rest) = some (l, '\n' :: rest)) : Writes cs l := by
  intro rest
  have hblanks : blanks (cs ++ '\n' :: rest) = some ((), cs ++ '\n' :: rest) := by
    refine blanks_none fun c hc => ?_
    cases cs with
    | nil => exact lineBreak_stops (by decide) c hc
    | cons d cs => exact hb c hc
  rw [line, bind_some hblanks, bind_some (h rest), bind_some lineEnd_break]
  rfl

theorem writes_blank : Writes [] .blank := by
  intro rest
  rfl

theorem keyPath_bare {after : List Char} (hne : cs ≠ []) (h : ∀ c ∈ cs, isBare c = true)
    (hr : ∀ c, rest.head? = some c → isBare c = false)
    (ha : blanks rest = some ((), after)) (hp : after.head? ≠ some '.') :
    keyPath (cs ++ rest) = some ([String.ofList cs], after) := by
  have hblanks : blanks (cs ++ rest) = some ((), cs ++ rest) := by
    refine blanks_none fun c hc => not_isBlank (h c ?_) rfl rfl
    rw [List.head?_append_of_ne_nil _ hne] at hc
    exact List.mem_of_head? hc
  have hbare : simpleKey (cs ++ rest) = some (String.ofList cs, rest) :=
    orElse_some (map_some _ (run1_append hne h hr))
  have hkey : (blanks *> simpleKey <* blanks) (cs ++ rest) = some (String.ofList cs, after) := by
    have hfirst : (blanks *> simpleKey) (cs ++ rest) = some (String.ofList cs, rest) := by
      rw [seqRight_some hblanks, hbare]
    exact (bind_some hfirst).trans (bind_some ha)
  exact satisfying_some (separated_one hkey (exactly_none hp)) rfl

/-- A header is read from its key in brackets. -/
theorem writes_header (hne : cs ≠ []) (h : ∀ c ∈ cs, isBare c = true) :
    Writes ('[' :: cs ++ [']']) (.header [String.ofList cs]) := by
  refine writes_of_content (by simp [isBlank]) fun rest => ?_
  have hpath : keyPath (cs ++ ']' :: '\n' :: rest) = some ([String.ofList cs], ']' :: '\n' :: rest) :=
    keyPath_bare hne h (by rintro c ⟨⟩; rfl) (blanks_none (by rintro c ⟨⟩; rfl)) (by simp)
  have hdouble : phrase ['[', '['] ('[' :: (cs ++ ']' :: '\n' :: rest)) = none := by
    rw [phrase, bind_some (exactly_cons ..)]
    exact phrase_none (head?_append_ne hne h rfl)
  simp only [List.cons_append, List.append_assoc, List.nil_append]
  rw [lineContent, firstOf_none (bind_none hdouble), firstOf_some]
  rw [bind_some (exactly_cons ..), bind_some hpath, bind_some (exactly_cons ..)]
  rfl

theorem value_some {s t : List Char} (n : Nat) (h : simpleValue s = some (v, t)) :
    value n s = some (v, t) := by
  cases n with
  | zero => exact h
  | succ n => exact firstOf_some h

/-- A value without parts under a key is read from the two and the sign between them. -/
theorem writes_entry {vs : List Char} (hne : cs ≠ []) (h : ∀ c ∈ cs, isBare c = true)
    (hb : ∀ c, vs.head? = some c → isBlank c = false)
    (hv : ∀ rest, simpleValue (vs ++ '\n' :: rest) = some (v, '\n' :: rest)) :
    Writes (cs ++ ' ' :: '=' :: ' ' :: vs) (.entry [String.ofList cs] v) := by
  refine writes_of_content (fun c hc => ?_) fun rest => ?_
  · rw [List.head?_append_of_ne_nil _ hne] at hc
    exact not_isBlank (h c (List.mem_of_head? hc)) rfl rfl
  · have hvalue := value_some (nestingBound - 1) (hv rest)
    have hblank : blanks (' ' :: (vs ++ '\n' :: rest)) = some ((), vs ++ '\n' :: rest) := by
      refine blanks_one fun c hc => ?_
      cases vs with
      | nil => exact lineBreak_stops (by decide) c hc
      | cons d vs => exact hb c hc
    have hpath : keyPath (cs ++ ' ' :: '=' :: ' ' :: (vs ++ '\n' :: rest)) =
        some ([String.ofList cs], '=' :: ' ' :: (vs ++ '\n' :: rest)) :=
      keyPath_bare hne h (by rintro c ⟨⟩; rfl) (blanks_one (by rintro c ⟨⟩; rfl)) (by simp)
    simp only [List.append_assoc, List.cons_append]
    rw [lineContent, firstOf_none (bind_none (phrase_none (head?_append_ne hne h rfl))),
      firstOf_none (bind_none (exactly_none (head?_append_ne hne h rfl))), firstOf_some]
    refine (bind_some (a := ([String.ofList cs], v)) (t := '\n' :: rest) ?_).trans rfl
    rw [entry, bind_some hpath, bind_some (exactly_cons ..), bind_some hblank, bind_some hvalue]
    rfl

/-- Lines are read one after another. -/
theorem lines_of_writes {written : List (String × Line)} (h : ∀ l ∈ written, Writes l.1.toList l.2)
    {n : Nat} (hn : written.length ≤ n) :
    lines n (written.flatMap fun l => l.1.toList ++ ['\n']) = some (written.map (·.2)) := by
  induction written generalizing n with
  | nil => cases n <;> rfl
  | cons l written ih =>
    cases n with
    | zero => simp at hn
    | succ n =>
      have hrest := ih (fun l hl => h l (by simp [hl])) (n := n) (by simpa using hn)
      have hline := h l (by simp) (written.flatMap fun l => l.1.toList ++ ['\n'])
      rw [List.flatMap_cons, List.append_assoc, List.singleton_append]
      cases hs : l.1.toList ++ '\n' :: written.flatMap fun l => l.1.toList ++ ['\n'] with
      | nil => simp at hs
      | cons c s =>
        rw [hs] at hline
        simp [lines, hline, hrest]

/-- A document is read line by line. -/
theorem document?_of_writes {written : List (String × Line)} (h : ∀ l ∈ written, Writes l.1.toList l.2)
    (hm : ∀ l, written.head? = some l → l.1.toList.head? ≠ some '\uFEFF') :
    document? (String.join (written.map (·.1 ++ "\n"))) = build? (written.map (·.2)) := by
  have htext : (String.join (written.map (·.1 ++ "\n"))).toList =
      written.flatMap fun l => l.1.toList ++ ['\n'] := by
    simp [String.toList_join, List.flatMap_map]
  have hmark : withoutMark (written.flatMap fun l => l.1.toList ++ ['\n']) =
      written.flatMap fun l => l.1.toList ++ ['\n'] := by
    unfold withoutMark
    split
    · next heq =>
      cases written with
      | nil => cases heq
      | cons l written =>
        have hl := hm l rfl
        cases hc : l.1.toList <;> simp_all
    · rfl
  have hlength : written.length ≤ (written.flatMap fun l => l.1.toList ++ ['\n']).length := by
    clear h hm htext hmark
    induction written with
    | nil => simp
    | cons l written ih =>
      rw [List.flatMap_cons, List.length_append, List.length_append, List.length_cons]
      simp only [List.length_singleton]
      omega
  simp only [document?, htext, hmark, lines_of_writes h hlength, Option.bind_eq_bind, Option.bind_some]

end

/-! ## Sections -/

/-- A section as it is written: its heading, and the key, the text and the value of its entry, if it has
one. -/
structure Section where
  heading : String
  entry? : Option (String × String × Value)

namespace Section

/-- The lines of a section, with what they mean. -/
def lines (s : Section) : List (String × Line) :=
  ("[" ++ s.heading ++ "]", .header [s.heading]) ::
    s.entry?.toList.map fun (key, text, v) => (key ++ " = " ++ text, .entry [key] v)

/-- The lines of some sections, with a blank one between each two of them. -/
def joined : List Section → List (String × Line)
  | [] => []
  | [s] => s.lines
  | s :: rest => s.lines ++ ("", .blank) :: joined rest

/-- The entry of a section in the root table of a document. -/
def table (s : Section) : String × Value :=
  (s.heading, .table (s.entry?.toList.map fun (key, _, v) => (key, v)))

/-- The same while the document is still read. -/
def node (s : Section) : String × Node :=
  (s.heading, .table .header (s.entry?.toList.map fun (key, _, v) => (key, .leaf v)))

/-- The keys of a section need no quotes, and the text of its value is read as that. -/
structure IsReadable (s : Section) : Prop where
  heading : isKey s.heading = true
  key : ∀ e ∈ s.entry?, isKey e.1 = true
  value : ∀ e ∈ s.entry?, ReadsAs e.2.1 e.2.2

theorem IsReadable.lines {s : Section} (h : s.IsReadable) : ∀ l ∈ s.lines, Writes l.1.toList l.2 := by
  intro l hl
  rcases List.mem_cons.mp hl with rfl | hl
  · obtain ⟨hne, hbare⟩ := isKey_iff.mp h.heading
    simpa using writes_header hne hbare
  · obtain ⟨e, he, rfl⟩ := List.mem_map.mp hl
    have he := Option.mem_toList.mp he
    obtain ⟨hne, hbare⟩ := isKey_iff.mp (h.key e he)
    simpa using writes_entry hne hbare (h.value e he).start (h.value e he).value

theorem joined_readable {sections : List Section} (h : ∀ s ∈ sections, s.IsReadable) :
    ∀ l ∈ joined sections, Writes l.1.toList l.2 := by
  fun_induction joined sections with
  | case1 => simp
  | case2 s => exact (h s (by simp)).lines
  | case3 s rest hrest ih =>
    intro l hl
    rcases List.mem_append.mp hl with hl | hl
    · exact (h s (by simp)).lines l hl
    · rcases List.mem_cons.mp hl with rfl | hl
      · exact writes_blank
      · exact ih (fun s hs => h s (by simp [hs])) l hl

end Section

theorem Entries.alter_last {key : String} {f : Option Node → Option Node} {entries : Entries} {n : Node}
    (h : ∀ e ∈ entries, e.1 ≠ key) :
    Entries.alter key f (entries ++ [(key, n)]) = (f (some n)).map fun n => entries ++ [(key, n)] := by
  induction entries with
  | nil => simp [alter]
  | cons e rest ih =>
    have hk : e.1 ≠ key := h e (by simp)
    have hrest := ih fun e he => h e (by simp [he])
    simp [alter, hk, hrest, Function.comp_def]

theorem Section.add {d : Draft} {s : Section} (h : ∀ e ∈ d.root, e.1 ≠ s.heading) :
    (s.lines.map (·.2)).foldlM Draft.add d = some ⟨d.root ++ [s.node], [s.heading]⟩ := by
  have hopen : d.add (.header [s.heading]) =
      some ⟨d.root ++ [(s.heading, .table .header [])], [s.heading]⟩ := by
    simp [Draft.add, Entries.at?, Entries.openTable, Entries.alter_new _ _ _ _ _ h]
  cases he : s.entry? with
  | none => simp [Section.lines, Section.node, he, hopen]
  | some e =>
    have hentry : Draft.add ⟨d.root ++ [(s.heading, .table .header [])], [s.heading]⟩
        (.entry [e.1] e.2.2) =
          some ⟨d.root ++ [(s.heading, .table .header [(e.1, .leaf e.2.2)])], [s.heading]⟩ := by
      simp [Draft.add, Entries.at?, Entries.alter_last h, Entries.assign, Entries.alter]
    simp only [Section.lines, Section.node, he, Option.toList_some, List.map_cons, List.map_nil,
      List.foldlM_cons, List.foldlM_nil, hopen, Option.bind_eq_bind, Option.bind_some, hentry,
      Option.pure_def]

theorem Section.add_joined {d : Draft} {sections : List Section} (h : (sections.map Section.heading).Nodup)
    (hd : ∀ s ∈ sections, ∀ e ∈ d.root, e.1 ≠ s.heading) :
    (((joined sections).map (·.2)).foldlM Draft.add d).map Draft.root =
      some (d.root ++ sections.map Section.node) := by
  fun_induction joined sections generalizing d with
  | case1 => simp
  | case2 s => simp [Section.add (hd s (by simp))]
  | case3 s rest hrest ih =>
    obtain ⟨hnew, hnodup⟩ := List.nodup_cons.mp h
    have hlater := ih (d := ⟨d.root ++ [s.node], [s.heading]⟩) hnodup (by
      intro t ht e he
      rcases List.mem_append.mp he with he | he
      · exact hd t (by simp [ht]) e he
      · obtain rfl := List.mem_singleton.mp he
        intro heq
        have : s.heading = t.heading := heq
        exact hnew (this ▸ List.mem_map_of_mem ht))
    rw [List.map_append, List.foldlM_append, Section.add (hd s (by simp))]
    simpa [Draft.add] using hlater

theorem Section.values_node (sections : List Section) :
    Entries.values (sections.map Section.node) = sections.map Section.table := by
  induction sections with
  | nil => rfl
  | cons s rest ih =>
    rw [List.map_cons, List.map_cons, Section.node, Entries.values, ih]
    cases he : s.entry? <;> simp [Section.table, he, Node.value, Entries.values]

/-- A document of sections is read back, whichever of them are there and have their value. -/
theorem document?_sections {sections : List Section} (hnodup : (sections.map Section.heading).Nodup)
    (h : ∀ s ∈ sections, s.IsReadable) :
    document? (String.join ((Section.joined sections).map (·.1 ++ "\n"))) =
      some (sections.map Section.table) := by
  have hm : ∀ l, (Section.joined sections).head? = some l → l.1.toList.head? ≠ some '\uFEFF' := by
    intro l hl
    fun_cases Section.joined sections with
    | case1 => simp [Section.joined] at hl
    | case2 s =>
      obtain rfl : _ = l := by simpa [Section.joined, Section.lines] using hl
      simp
    | case3 s rest hrest =>
      obtain rfl : _ = l := by simpa [Section.joined, Section.lines] using hl
      simp
  have hroot := Section.add_joined (d := ⟨[], []⟩) hnodup (by simp)
  rw [document?_of_writes (Section.joined_readable h) hm, build?]
  obtain ⟨d, hd, hnodes⟩ := Option.map_eq_some_iff.mp hroot
  rw [hd, Option.map_some, hnodes, List.nil_append, Section.values_node]

end CoroutineEngine.Toml
