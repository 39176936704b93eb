import CoroutineEngine.Toml.Quoted
import CoroutineEngine.Toml.Value

/-!
# Numbers and moments in TOML

Integers are in decimal, with a sign and without leading zeros, or in base 16, 8 or 2; they have 64 bits.
Underscores may stand between two digits. A floating-point number has a fraction or an exponent and must
not be so great that it would count as infinite. A moment is a date, a time of day, or both.

Results:
* `isStorable_iff`: the sizes that a document can hold.
-/

namespace CoroutineEngine.Toml

open Reader

/-! ## Digits -/

/-- Digits with at most one underscore between each two. -/
def isSpaced (p : Char → Bool) : List Char → Bool
  | [] => false
  | [c] => p c
  | c :: '_' :: rest => p c && isSpaced p rest
  | c :: d :: rest => p c && isSpaced p (d :: rest)

/-- Digits of a class, without the underscores between them. -/
def digits (p : Char → Bool) : Reader (List Char) := do
  let cs ← satisfying (run1 fun c => p c || c == '_') (isSpaced p)
  return cs.filter (· != '_')

/-- Decimal digits without a leading zero. -/
def decimal : Reader (List Char) :=
  satisfying (digits Char.isDigit) fun cs => cs.length == 1 || cs.head? != some '0'

/-- The value of digits in a base. -/
def magnitude (base : Nat) (cs : List Char) : Nat := cs.foldl (fun n c => n * base + hexValue c) 0

/-- A sign; no sign counts as plus. -/
def isNegative : Reader Bool := do
  match ← maybe (item fun c => c == '+' || c == '-') with
  | some c => return c == '-'
  | none => return false

/-! ## Integers -/

/-- The greatest integer that a document can hold: `2^63 - 1`. -/
def greatestInteger : Int := 9223372036854775807

/-- The integers that a document can hold. -/
def isStorable (i : Int) : Bool := -greatestInteger - 1 ≤ i && i ≤ greatestInteger

/-- An integer in decimal. -/
def decimalInteger : Reader Value := do
  let negative ← isNegative
  let n := magnitude 10 (← decimal)
  let i : Int := if negative then -n else n
  if isStorable i then return .integer i else failure

/-- An integer in another base, behind a zero and a letter. -/
def basedInteger (letter : Char) (base : Nat) (p : Char → Bool) : Reader Value := do
  phrase ['0', letter]
  let n := magnitude base (← digits p)
  if isStorable n then return .integer n else failure

/-- An integer. -/
def integer : Reader Value :=
  firstOf
    [basedInteger 'x' 16 isHexDigit, basedInteger 'o' 8 fun c => '0' ≤ c && c ≤ '7',
      basedInteger 'b' 2 fun c => c == '0' || c == '1', decimalInteger]

/-! ## Floating-point numbers -/

/-- The least number that counts as infinite: half a unit above the greatest finite one. -/
def infiniteFrom : Nat := Nat.pow 2 1024 - Nat.pow 2 970

/-- Whether `m` times the `e`-th power of ten counts as infinite. -/
def isInfinite (m : Nat) (e : Int) : Bool :=
  let size : Int := (Nat.toDigits 10 m).length + e
  if m = 0 || size < 309 then false
  else if 309 < size then true
  else if 0 ≤ e then infiniteFrom ≤ m * Nat.pow 10 e.toNat
  else infiniteFrom * Nat.pow 10 (-e).toNat ≤ m

/-- The digits after a point. -/
def fraction : Reader (List Char) := do
  exactly '.'
  digits Char.isDigit

/-- An exponent. -/
def exponent : Reader Int := do
  discard (item fun c => c == 'e' || c == 'E')
  let negative ← isNegative
  let n := magnitude 10 (← digits Char.isDigit)
  return if negative then -n else n

/-- A floating-point number in digits. -/
def finiteFloat : Reader Value := do
  let negative ← isNegative
  let whole ← decimal
  let places ← maybe fraction
  let power ← if places.isSome then maybe exponent else some <$> exponent
  let part := places.getD []
  if !negative && isInfinite (magnitude 10 (whole ++ part)) (power.getD 0 - part.length) then failure
  else return .float

/-- An infinite or undefined number. -/
def specialFloat : Reader Value := do
  discard isNegative
  orElse (phrase ['i', 'n', 'f']) (phrase ['n', 'a', 'n'])
  return .float

/-! ## Moments -/

/-- A number of exactly `n` digits within limits. -/
def bounded (n low high : Nat) : Reader Nat := do
  let v := magnitude 10 (← count Char.isDigit n)
  if low ≤ v ∧ v ≤ high then return v else failure

/-- The days of a month. -/
def daysOfMonth (year month : Nat) : Nat :=
  if month = 2 then
    if year % 4 = 0 ∧ (year % 100 ≠ 0 ∨ year % 400 = 0) then 29 else 28
  else if month = 4 ∨ month = 6 ∨ month = 9 ∨ month = 11 then 30
  else 31

/-- A date. -/
def date : Reader Unit := do
  let year ← bounded 4 0 9999
  exactly '-'
  let month ← bounded 2 1 12
  exactly '-'
  discard (bounded 2 1 (daysOfMonth year month))

/-- A time of day; a minute may have a leap second. -/
def time : Reader Unit := do
  discard (bounded 2 0 23)
  exactly ':'
  discard (bounded 2 0 59)
  exactly ':'
  discard (bounded 2 0 60)
  discard (maybe (exactly '.' *> run1 Char.isDigit))

/-- The distance of a time zone. -/
def zone : Reader Unit :=
  orElse (discard (item fun c => c == 'Z' || c == 'z')) do
    discard (item fun c => c == '+' || c == '-')
    discard (bounded 2 0 23)
    exactly ':'
    discard (bounded 2 0 59)

/-- A moment. -/
def moment : Reader Value := do
  orElse
    (do
      date
      discard (maybe do
        discard (item fun c => c == 'T' || c == 't' || c == ' ')
        time
        discard (maybe zone)))
    time
  return .moment

/-! ## Scalars -/

/-- A truth value. -/
def boolean : Reader Value :=
  orElse (phrase ['t', 'r', 'u', 'e'] *> pure (.boolean true))
    (phrase ['f', 'a', 'l', 's', 'e'] *> pure (.boolean false))

/-- A value without parts. -/
def simpleValue : Reader Value :=
  firstOf [.text <$> anyQuotedText, boolean, moment, finiteFloat, specialFloat, integer]

/-! ## Helpers -/

theorem isStorable_iff {n : Nat} : isStorable n = true ↔ (n : Int) ≤ greatestInteger := by
  simp only [isStorable, Bool.and_eq_true, decide_eq_true_eq]
  simp only [greatestInteger]
  omega

end CoroutineEngine.Toml
