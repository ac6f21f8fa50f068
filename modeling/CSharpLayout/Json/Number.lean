import CSharpLayout.Json.Value
import CSharpLayout.Number.Decimal

/-! The numbers of JSON text. Without fraction and exponent a number that fits 64 bits is an integer.
Any other number is a double: a 64-bit significand, rounded, and then scaled by a rounded power of ten. -/

namespace CSharpLayout

namespace JsonNumber

def absorb (significand : Nat) : List Char → Nat × List Char
  | [] => (significand, [])
  | digit :: rest =>
      let next := 10 * significand + (digit.toNat - '0'.toNat)
      if next < Nat.pow 2 64 then absorb next rest else (significand, digit :: rest)

def powerOfTen (power : Nat) : Double := Binary.ofNat false (Nat.pow 10 power)

def times (left right : Double) : Double :=
  match left.ratio?, right.ratio? with
  | some (a, b), some (c, d) => Binary.ofRatio false (a * c) (b * d)
  | _, _ => Binary.infinity false

def dividedBy (left right : Double) : Double :=
  match left.ratio?, right.ratio? with
  | some (a, b), some (c, d) => Binary.ofRatio false (a * d) (b * c)
  | _, _ => Binary.zero false

/-- Divides by a power of ten. A power above 308 is taken off in parts; two parts already take
every 64-bit significand to zero, so three rounds are enough. -/
def scaleDown : Nat → Double → Nat → Double
  | 0, number, _ => number
  | rounds + 1, number, power =>
      if power ≤ 308 then dividedBy number (powerOfTen power)
      else if number = Binary.zero false then number
      else scaleDown rounds (dividedBy number (powerOfTen 308)) (power - 308)

def magnitude? (significand : Nat) (exponent : Int) : Option Double :=
  let rounded : Double := Binary.ofNat false significand
  if exponent < 0 then some (scaleDown 4 rounded exponent.natAbs)
  else if exponent ≤ 308 then
    let scaled := times rounded (powerOfTen exponent.natAbs)
    if scaled.isFinite then some scaled else none
  else if significand = 0 then some rounded
  else none

def real? (negative : Bool) (significand : Nat) (exponent : Int) : Option JsonNumber :=
  (magnitude? significand exponent).map fun number =>
    .double (Binary.withSign negative number.bits)

def whole (negative : Bool) (significand : Nat) : JsonNumber :=
  if !negative then .integer significand
  else if significand = 0 || Nat.pow 2 63 < significand then
    .double (Binary.ofNat true significand)
  else .integer (-significand)

structure Parts where
  negative : Bool
  whole : List Char
  fraction : Option (List Char)
  exponent : Option (Bool × List Char)
  deriving DecidableEq, Repr

def Parts.value? (parts : Parts) : Option JsonNumber :=
  let (leading, dropped) := absorb 0 parts.whole
  match parts.fraction, parts.exponent with
  | none, none =>
      if dropped.isEmpty then some (JsonNumber.whole parts.negative leading)
      else real? parts.negative leading dropped.length
  | fraction, exponent =>
      let places := fraction.getD []
      let (significand, unread) := absorb leading places
      let start : Int := (dropped.length : Int) - (places.length - unread.length : Nat)
      match exponent with
      | none => real? parts.negative significand start
      | some (below, digits) =>
          let power := digitsValue digits
          if Nat.pow 2 31 ≤ power then
            if significand ≠ 0 && !below then none
            else some (.double (Binary.zero parts.negative))
          else real? parts.negative significand (if below then start - power else start + power)

def digits? (text : List Char) : Option (List Char × List Char) :=
  match text.takeWhile Char.isDigit with
  | [] => none
  | digits => some (digits, text.dropWhile Char.isDigit)

def wholePart? (text : List Char) : Option (List Char × List Char) :=
  match digits? text with
  | some ('0' :: _ :: _, _) => none
  | part => part

def fractionPart? : List Char → Option (Option (List Char) × List Char)
  | '.' :: rest => (digits? rest).map fun (digits, rest) => (some digits, rest)
  | text => some (none, text)

def exponentPart? : List Char → Option (Option (Bool × List Char) × List Char)
  | mark :: rest =>
      if mark = 'e' || mark = 'E' then
        let (below, rest) := DecimalText.splitSign rest
        (digits? rest).map fun (digits, rest) => (some (below, digits), rest)
      else some (none, mark :: rest)
  | [] => some (none, [])

def read? (text : List Char) : Option (Option JsonNumber × List Char) := do
  let (negative, rest) := match text with
    | '-' :: rest => (true, rest)
    | rest => (false, rest)
  let (whole, rest) ← wholePart? rest
  let (fraction, rest) ← fractionPart? rest
  let (exponent, rest) ← exponentPart? rest
  return (Parts.value? ⟨negative, whole, fraction, exponent⟩, rest)

end JsonNumber

end CSharpLayout
