import CoroutineEngine.Decimal.Shortest

/-!
# The text of a floating-point number

Splits a double into its parts and lays the shortest digits out.
-/

namespace CoroutineEngine.Decimal

/-! ## Layout -/

/-- How digits are laid out: numbers whose first digit has an exponent from `leastPositional` to
`greatestPositional` are written with a point, the others with an exponent after `mark`; a whole number
keeps `wholeSuffix`. -/
structure Layout where
  leastPositional : Int
  greatestPositional : Int
  mark : String
  wholeSuffix : String
  infinity : String
  notANumber : String

/-- The layout of values: positional from 0.0001 to below 10^16, and `1.0` for one. -/
def Layout.value : Layout := ⟨-4, 15, "e", ".0", "inf", "NaN"⟩

/-- Some zeros. -/
def zeros (n : Nat) : String := String.ofList (List.replicate n '0')

/-- Lays digits out. -/
def Layout.write (l : Layout) (d : Digits) : String :=
  let exponent := d.point - 1
  if exponent < l.leastPositional ∨ l.greatestPositional < exponent then
    let mantissa :=
      match d.digits with
      | [] => "0"
      | [c] => String.singleton c
      | c :: rest => String.ofList (c :: '.' :: rest)
    mantissa ++ l.mark ++ toString exponent
  else if d.point ≤ 0 then
    "0." ++ zeros (-d.point).toNat ++ String.ofList d.digits
  else
    let point := d.point.toNat
    if d.digits.length ≤ point then
      String.ofList d.digits ++ zeros (point - d.digits.length) ++ l.wholeSuffix
    else
      String.ofList (d.digits.take point) ++ "." ++ String.ofList (d.digits.drop point)

/-! ## Doubles -/

/-- The weight of the leading bit of a significand, which a normal double does not store: `2^52`. -/
def implicitBit : Nat := 4503599627370496

/-- The text of the double with given bits. -/
def Layout.writeBits (l : Layout) (bits : UInt64) : String :=
  let n := bits.toNat
  let sign := if n / (2048 * implicitBit) = 1 then "-" else ""
  let exponent : Nat := n / implicitBit % 2048
  let fraction := n % implicitBit
  if exponent = 2047 then
    if fraction = 0 then sign ++ l.infinity else l.notANumber
  else if exponent = 0 ∧ fraction = 0 then sign ++ "0" ++ l.wholeSuffix
  else if exponent = 0 then sign ++ l.write (shortest fraction (-1074) false)
  else
    sign ++ l.write
      (shortest (implicitBit + fraction) ((exponent : Int) - 1075)
        (decide (fraction = 0) && decide (1 < exponent)))

/-- The text of a double, as values show it. -/
def floatText (x : Float) : String := Layout.value.writeBits x.toBits

end CoroutineEngine.Decimal
