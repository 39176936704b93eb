/-!
# The fewest digits that read back

A finite positive number in binary, `m · 2^q`, stands for every real that is nearer to it than to its
neighbours. Among the decimals in that interval this module finds one with the fewest digits, and of
those the nearest.

Results:
* `candidates_pair`: on a grid only the two neighbours of the number are tried.
* `pick_holds`: what is picked lies in the interval.
-/

namespace CoroutineEngine.Decimal

/-! ## Definitions -/

/-- The reals that round to one number, as fractions over a common denominator: the number `value`, its
ends `low` and `high`, and whether the ends belong to it. -/
structure Interval where
  value : Nat
  low : Nat
  high : Nat
  denominator : Nat
  closed : Bool
  deriving Repr

/-- The interval of `m · 2^q`. `narrow` says that the number below is only half as far away as the one
above. The ends belong to the interval iff `m` is even. -/
def Interval.ofBinary (m : Nat) (q : Int) (narrow : Bool) : Interval :=
  let low := if narrow then 4 * m - 1 else 4 * m - 2
  let scale := Nat.pow 2 (q - 2).toNat
  { value := 4 * m * scale, low := low * scale, high := (4 * m + 2) * scale
    denominator := Nat.pow 2 (2 - q).toNat, closed := m % 2 == 0 }

/-- Whether the decimal `d · 10^e` lies in the interval. -/
def Interval.holds (i : Interval) (d : Nat) (e : Int) : Bool :=
  let x := d * Nat.pow 10 e.toNat * i.denominator
  let scale := Nat.pow 10 (-e).toNat
  if i.closed then decide (i.low * scale ≤ x) && decide (x ≤ i.high * scale)
  else decide (i.low * scale < x) && decide (x < i.high * scale)

/-- The greatest `d` with `d · 10^e` not above the number. -/
def Interval.floorAt (i : Interval) (e : Int) : Nat :=
  (i.value * Nat.pow 10 (-e).toNat) / (i.denominator * Nat.pow 10 e.toNat)

/-- Whether the number is nearer to `d · 10^e` than to `(d + 1) · 10^e`. -/
def Interval.nearerBelow (i : Interval) (d : Nat) (e : Int) : Bool :=
  decide (2 * (i.value * Nat.pow 10 (-e).toNat) < (2 * d + 1) * (i.denominator * Nat.pow 10 e.toNat))

/-- The decimal of the grid `10^e` that stands for the number, if one lies in the interval: the nearer of
the two neighbours, the upper one when both are equally near. -/
def Interval.pick? (i : Interval) (e : Int) : Option Nat :=
  let d := i.floorAt e
  match i.holds d e, i.holds (d + 1) e with
  | true, true => some (if i.nearerBelow d e then d else d + 1)
  | true, false => some d
  | false, true => some (d + 1)
  | false, false => none

/-- The exponent of the first digit: the greatest `k` with `10^k` not above the number, looked for from
`k` downwards. -/
def Interval.leading (i : Interval) : Nat → Int → Int
  | 0, k => k
  | fuel + 1, k => if i.floorAt k = 0 then i.leading fuel (k - 1) else k

/-- The first grid, from `e` downwards, that has a decimal in the interval. -/
def Interval.firstGrid (i : Interval) : Nat → Int → Nat × Int
  | 0, e => (i.floorAt e, e)
  | fuel + 1, e =>
    match i.pick? e with
    | some d => (d, e)
    | none => i.firstGrid fuel (e - 1)

/-- A decimal `0.d₁d₂… · 10^point`: its digits and the place of the point. -/
structure Digits where
  digits : List Char
  point : Int
  deriving Repr

/-- The digits of `d · 10^e`, without trailing zeros. -/
def Digits.ofGrid (d : Nat) (e : Int) : Digits :=
  let all := Nat.toDigits 10 d
  { digits := (all.reverse.dropWhile (· == '0')).reverse, point := e + all.length }

/-- The fewest digits that read back as `m · 2^q`. A double needs at most 17. -/
def shortest (m : Nat) (q : Int) (narrow : Bool) : Digits :=
  let i := Interval.ofBinary m q narrow
  let k := i.leading 700 330
  let (d, e) := i.firstGrid 20 k
  Digits.ofGrid d e

/-! ## Helpers -/

theorem pick_holds (i : Interval) (e : Int) (d : Nat) (h : i.pick? e = some d) :
    i.holds d e = true := by
  simp only [Interval.pick?] at h
  cases h₁ : i.holds (i.floorAt e) e <;> cases h₂ : i.holds (i.floorAt e + 1) e <;>
    simp only [h₁, h₂, Option.some.injEq, reduceCtorEq] at h
  · exact h ▸ h₂
  · exact h ▸ h₁
  · split at h <;> exact h ▸ ‹_›

theorem candidates_pair (i : Interval) (e : Int) (d : Nat) (h : i.pick? e = some d) :
    d = i.floorAt e ∨ d = i.floorAt e + 1 := by
  simp only [Interval.pick?] at h
  cases h₁ : i.holds (i.floorAt e) e <;> cases h₂ : i.holds (i.floorAt e + 1) e <;>
    simp only [h₁, h₂, Option.some.injEq, reduceCtorEq] at h
  · exact .inr h.symm
  · exact .inl h.symm
  · split at h
    · exact .inl h.symm
    · exact .inr h.symm

end CoroutineEngine.Decimal
