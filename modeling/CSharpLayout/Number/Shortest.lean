import CSharpLayout.Number.Binary
import CSharpLayout.Number.Decimal

/-! The fewest decimal digits that read back as a given binary number. All arithmetic is on integers:
a number is compared with the points of a decimal grid and with the two halfway points around it. -/

namespace CSharpLayout

inductive TieRule where
  | up
  | toEven
  deriving DecidableEq, Repr

def leadingExponent (numerator denominator : Nat) : Int :=
  if denominator ≤ numerator then (decimalLength (numerator / denominator) : Int) - 1
  else -(decimalLength ((denominator + numerator - 1) / numerator - 1) : Int)

/-- The numbers that read back as one binary number: `lower` to `upper`, over one denominator,
with the ends included exactly when `closed`. -/
structure ReadInterval where
  lower : Nat
  value : Nat
  upper : Nat
  denominator : Nat
  closed : Bool
  deriving DecidableEq, Repr

namespace ReadInterval

def ofParts (format : BinaryFormat) (significand : Nat) (exponent : Int) : ReadInterval :=
  let narrow := significand = Nat.pow 2 format.fractionBits ∧ format.leastExponent < exponent
  let lower := if narrow then 4 * significand - 1 else 4 * significand - 2
  let closed := significand % 2 == 0
  if 2 ≤ exponent then
    let unit := Nat.pow 2 (exponent - 2).toNat
    ⟨lower * unit, 4 * significand * unit, (4 * significand + 2) * unit, 1, closed⟩
  else
    ⟨lower, 4 * significand, 4 * significand + 2, Nat.pow 2 (2 - exponent).toNat, closed⟩

def contains (interval : ReadInterval) (numerator denominator : Nat) : Bool :=
  let scaled := numerator * interval.denominator
  if interval.closed then
    interval.lower * denominator ≤ scaled && scaled ≤ interval.upper * denominator
  else
    interval.lower * denominator < scaled && scaled < interval.upper * denominator

def onGrid? (tie : TieRule) (interval : ReadInterval) (exponent : Int) : Option Decimal :=
  let up := Nat.pow 10 exponent.toNat
  let down := Nat.pow 10 (-exponent).toNat
  let below := interval.value * down / (interval.denominator * up)
  let rest := interval.value * down % (interval.denominator * up)
  let nearBelow := interval.contains (below * up) down
  let nearAbove := interval.contains ((below + 1) * up) down
  let takeAbove :=
    if 2 * rest < interval.denominator * up then false
    else if interval.denominator * up < 2 * rest then true
    else match tie with
      | .up => true
      | .toEven => below % 2 == 1
  if nearBelow && nearAbove then some ⟨if takeAbove then below + 1 else below, exponent⟩
  else if nearBelow then some ⟨below, exponent⟩
  else if nearAbove then some ⟨below + 1, exponent⟩
  else none

def search (tie : TieRule) (interval : ReadInterval) : Nat → Int → Decimal
  | 0, exponent => ⟨0, exponent⟩
  | fuel + 1, exponent =>
      match interval.onGrid? tie exponent with
      | some decimal => decimal
      | none => search tie interval fuel (exponent - 1)

end ReadInterval

/-- The shortest decimal that reads back as a positive finite number, nearest the number among those.
A format with `n` significand bits needs at most `n / 3 + 2` digits. -/
def shortestDecimal (tie : TieRule) (format : BinaryFormat) (significand : Nat) (exponent : Int) :
    Decimal :=
  let interval := ReadInterval.ofParts format significand exponent
  let leading := leadingExponent interval.value interval.denominator
  let found := interval.search tie (format.fractionBits + 1) leading
  found.stripZeros 20

namespace Binary

variable {format : BinaryFormat}

def shortest? (tie : TieRule) (number : Binary format) : Option Decimal :=
  match number.magnitude with
  | .finite 0 _ => some ⟨0, 0⟩
  | .finite significand exponent => some (shortestDecimal tie format significand exponent)
  | _ => none

/-- The nearest number to a decimal. Powers of ten far outside the range of every format
are settled without being computed. -/
def ofDecimal (negative : Bool) (decimal : Decimal) : Binary format :=
  if decimal.digits = 0 || decimal.leading < -400 then zero negative
  else if 400 < decimal.leading then infinity negative
  else if 0 ≤ decimal.exponent then
    ofRatio negative (decimal.digits * Nat.pow 10 decimal.exponent.toNat) 1
  else ofRatio negative decimal.digits (Nat.pow 10 (-decimal.exponent).toNat)

def ofDecimalText : DecimalText → Binary format
  | .finite negative value => ofDecimal negative value
  | .infinite negative => infinity negative
  | .nan negative => nan negative

end Binary

end CSharpLayout
