/-!
JSON numbers. An integer that fits 64 bits, signed or unsigned, is kept exactly; every other number is a
double. Doubles are held as a significand and a power of two, so that every operation on them is exact
arithmetic on natural numbers followed by one rounding.
-/

namespace PageEditor.Json

/-- The finite double `± significand * 2 ^ scale / 2 ^ 1074`. -/
structure Binary64 where
  negative : Bool
  significand : Nat
  scale : Nat
deriving DecidableEq

abbrev FitsWord (value : Int) : Prop := -0x8000000000000000 ≤ value ∧ value < 0x10000000000000000

inductive Number where
  | integer (value : Int) (fits : FitsWord value)
  | real (value : Binary64)
deriving DecidableEq

namespace Binary64

def zero (negative : Bool) : Binary64 := ⟨negative, 0, 0⟩

def numerator (value : Binary64) : Nat := value.significand * Nat.pow 2 value.scale

/-- All finite doubles are multiples of its inverse. -/
def unit : Nat := Nat.pow 2 1074

/-- A normal significand has 53 bits. -/
def significandLimit : Nat := 0x20000000000000

/-- The quotient rounded to the nearest natural number, a half going to the even neighbour. -/
def roundDiv (numerator denominator : Nat) : Nat :=
  let quotient := numerator / denominator
  let twice := 2 * (numerator % denominator)
  if twice < denominator then quotient
  else if twice = denominator ∧ quotient % 2 = 0 then quotient
  else quotient + 1

/-- The double nearest to a positive quotient, a half going to the even neighbour, or nothing if it is
beyond the largest double. -/
def ofQuotient? (numerator denominator : Nat) : Option Binary64 :=
  let units := numerator * unit
  let bits := (units / denominator).log2 + 1
  let scale := bits - 53
  let significand := roundDiv units (denominator * Nat.pow 2 scale)
  let value : Binary64 :=
    if significand = significandLimit then ⟨false, significandLimit / 2, scale + 1⟩ else ⟨false, significand, scale⟩
  if value.scale ≤ 2045 then some value else none

def ofNat (value : Nat) : Binary64 := (ofQuotient? value 1).getD (zero false)

def tenPower (exponent : Nat) : Binary64 := ofNat (Nat.pow 10 exponent)

def mul? (left right : Binary64) : Option Binary64 :=
  ofQuotient? (left.numerator * right.numerator) (unit * unit)

/-- Division by a double that is at least one, which cannot overflow. -/
def div (left right : Binary64) : Binary64 :=
  (ofQuotient? left.numerator right.numerator).getD (zero false)

/-- Divides by `10 ^ exponent` in steps that are powers of ten a double can hold; each step rounds. -/
def shrink (value : Binary64) (exponent : Nat) : Binary64 :=
  if exponent ≤ 308 then value.div (tenPower exponent)
  else if value.significand = 0 then value
  else shrink (value.div (tenPower 308)) (exponent - 308)
termination_by exponent

/-- The value of `significand * 10 ^ exponent` as a reader computes it: the significand and the power
of ten are rounded before they are combined. Nothing if the result is too large. -/
def ofDecimal? (negative : Bool) (significand : Nat) (exponent : Int) : Option Binary64 :=
  let start := ofNat significand
  let magnitude :=
    if exponent < 0 then some (start.shrink exponent.natAbs)
    else if exponent.natAbs ≤ 308 then start.mul? (tenPower exponent.natAbs)
    else if significand = 0 then some start
    else none
  magnitude.map fun value => { value with negative }

end Binary64

namespace Number

def ofId (id : UInt64) : Number :=
  .integer id.toNat ⟨by omega, by have := id.toNat_lt; omega⟩

def ofInt? (value : Int) : Option Number :=
  if fits : FitsWord value then some (.integer value fits) else none

/-- The integer `± magnitude`, or the double next to it if 64 bits cannot hold it. A negative zero is a
double as well. -/
def ofSigned (negative : Bool) (magnitude : Nat) : Number :=
  if negative && magnitude == 0 then .real (.zero true)
  else match ofInt? (if negative then -magnitude else magnitude) with
    | some number => number
    | none => .real { Binary64.ofNat magnitude with negative }

end Number

end PageEditor.Json
