/-! Binary floating-point numbers as bit patterns. A pattern is read as a sign and an exact integer
multiple of a power of two, and a ratio of integers is rounded to the nearest pattern, ties to even. -/

namespace CSharpLayout

structure BinaryFormat where
  fractionBits : Nat
  exponentBits : Nat
  deriving DecidableEq, Repr

namespace BinaryFormat

def single : BinaryFormat := ⟨23, 8⟩

def double : BinaryFormat := ⟨52, 11⟩

def signBit (format : BinaryFormat) : Nat := Nat.pow 2 (format.exponentBits + format.fractionBits)

def topExponent (format : BinaryFormat) : Nat := Nat.pow 2 format.exponentBits - 1

def leastExponent (format : BinaryFormat) : Int :=
  2 - (Nat.pow 2 (format.exponentBits - 1) : Nat) - format.fractionBits

end BinaryFormat

structure Binary (format : BinaryFormat) where
  bits : Nat
  deriving DecidableEq, Repr

abbrev Single := Binary .single

abbrev Double := Binary .double

inductive Magnitude where
  | nan
  | infinite
  | finite (significand : Nat) (exponent : Int)
  deriving DecidableEq, Repr

namespace Binary

variable {format : BinaryFormat}

def isNegative (number : Binary format) : Bool := number.bits ≥ format.signBit

def unsignedBits (number : Binary format) : Nat := number.bits % format.signBit

def fraction (number : Binary format) : Nat := number.unsignedBits % Nat.pow 2 format.fractionBits

def exponentField (number : Binary format) : Nat := number.unsignedBits / Nat.pow 2 format.fractionBits

def magnitude (number : Binary format) : Magnitude :=
  if number.exponentField = format.topExponent then
    if number.fraction = 0 then .infinite else .nan
  else if number.exponentField = 0 then
    .finite number.fraction format.leastExponent
  else
    .finite (Nat.pow 2 format.fractionBits + number.fraction)
      (format.leastExponent + (number.exponentField - 1 : Nat))

def isFinite (number : Binary format) : Bool :=
  match number.magnitude with
  | .finite _ _ => true
  | _ => false

def withSign (negative : Bool) (unsigned : Nat) : Binary format :=
  ⟨if negative then format.signBit + unsigned else unsigned⟩

def zero (negative : Bool) : Binary format := withSign negative 0

def infinity (negative : Bool) : Binary format :=
  withSign negative (format.topExponent * Nat.pow 2 format.fractionBits)

def nan (negative : Bool) : Binary format :=
  withSign negative (format.topExponent * Nat.pow 2 format.fractionBits + Nat.pow 2 (format.fractionBits - 1))

def roundDiv (numerator denominator : Nat) : Nat :=
  let below := numerator / denominator
  let twice := 2 * (numerator % denominator)
  if twice < denominator then below
  else if denominator < twice then below + 1
  else below + below % 2

def scaled (numerator denominator : Nat) (exponent : Int) : Nat × Nat :=
  if 0 ≤ exponent then (numerator, denominator * Nat.pow 2 exponent.toNat)
  else (numerator * Nat.pow 2 (-exponent).toNat, denominator)

def unitExponent (format : BinaryFormat) (numerator denominator : Nat) : Int :=
  let guess : Int := (Nat.log2 numerator : Int) - Nat.log2 denominator - format.fractionBits
  let (top, bottom) := scaled numerator denominator guess
  let exact := if top < bottom * Nat.pow 2 format.fractionBits then guess - 1 else guess
  max format.leastExponent exact

/-- The nearest number to `numerator / denominator`, ties to even; too large a ratio gives an infinity. -/
def ofRatio (negative : Bool) (numerator denominator : Nat) : Binary format :=
  if numerator = 0 then zero negative
  else
    let exponent := unitExponent format numerator denominator
    let (top, bottom) := scaled numerator denominator exponent
    let significand := roundDiv top bottom
    let unsigned := (exponent - format.leastExponent).toNat * Nat.pow 2 format.fractionBits + significand
    if unsigned < format.topExponent * Nat.pow 2 format.fractionBits then withSign negative unsigned
    else infinity negative

def ofNat (negative : Bool) (value : Nat) : Binary format := ofRatio negative value 1

def ratio? (number : Binary format) : Option (Nat × Nat) :=
  match number.magnitude with
  | .finite significand exponent =>
      if 0 ≤ exponent then some (significand * Nat.pow 2 exponent.toNat, 1)
      else some (significand, Nat.pow 2 (-exponent).toNat)
  | _ => none

def convert {target : BinaryFormat} (number : Binary format) : Binary target :=
  match number.magnitude with
  | .nan => nan number.isNegative
  | .infinite => infinity number.isNegative
  | .finite _ _ =>
      match number.ratio? with
      | some (numerator, denominator) => ofRatio number.isNegative numerator denominator
      | none => zero number.isNegative

end Binary

end CSharpLayout
