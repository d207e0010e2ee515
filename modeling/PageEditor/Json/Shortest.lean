import PageEditor.Json.Number

/-!
The shortest decimal that reads back as a given double. Every real between the two halfway points
around a double rounds to it, the halfway points themselves exactly if its significand is even. The
digits are the first ones, counting one digit, two digits and so on, at which a neighbour of the double
on the decimal grid lies in that interval; of two neighbours the nearer is taken.
-/

namespace PageEditor.Json

/-- The number `significand * 10 ^ exponent`. -/
structure Decimal where
  significand : Nat
  exponent : Int

namespace Binary64

def digitCount (value : Nat) : Nat := (Nat.toDigits 10 value).length

def leadingExponent (value : Binary64) : Int :=
  if unit ≤ value.numerator then digitCount (value.numerator / unit) - 1
  else -digitCount ((unit - 1) / value.numerator)

/-- The interval that rounds to a double, as multiples of a quarter of the unit. Below a power of two
the doubles lie twice as close. -/
def roundingInterval (value : Binary64) : Nat × Nat :=
  let quarter := Nat.pow 2 value.scale
  let below := if value.significand = significandLimit / 2 ∧ 0 < value.scale then quarter else 2 * quarter
  (4 * value.numerator - below, 4 * value.numerator + 2 * quarter)

/-- The neighbour on the grid of multiples of `10 ^ exponent` that reads back as the double, if there
is one. -/
def onGrid? (value : Binary64) (exponent : Int) : Option Decimal :=
  let step := Nat.pow 10 exponent.toNat
  let divisor := Nat.pow 10 (-exponent).toNat
  let (low, high) := value.roundingInterval
  let reads (significand : Nat) : Bool :=
    let candidate := 4 * (significand * step * unit)
    if value.significand % 2 = 0 then low * divisor ≤ candidate && candidate ≤ high * divisor
    else low * divisor < candidate && candidate < high * divisor
  let exact := value.numerator * divisor
  let lower := exact / (step * unit)
  let upper := lower + 1
  let beyondLower := exact - lower * step * unit
  let beforeUpper := upper * step * unit - exact
  let nearer :=
    if beyondLower < beforeUpper then lower
    else if beforeUpper < beyondLower then upper
    else if lower % 2 = 0 then lower else upper
  let chosen := if reads lower && reads upper then some nearer
    else if reads lower then some lower
    else if reads upper then some upper
    else none
  chosen.map fun significand => ⟨significand, exponent⟩

/-- Seventeen digits always suffice. -/
def shortest (value : Binary64) : Decimal :=
  ((List.range 17).findSome? fun (digits : Nat) => value.onGrid? (value.leadingExponent - digits)).getD ⟨0, 0⟩

end Binary64

end PageEditor.Json
