/-! Decimal numbers as digits and a power of ten, their positional and scientific text, and the reader of
decimal text. -/

namespace CSharpLayout

structure Decimal where
  digits : Nat
  exponent : Int
  deriving DecidableEq, Repr

def decimalLength (value : Nat) : Nat := if value = 0 then 0 else (Nat.toDigits 10 value).length

namespace Decimal

def stripZeros : Nat → Decimal → Decimal
  | 0, decimal => decimal
  | fuel + 1, decimal =>
      if decimal.digits ≠ 0 ∧ decimal.digits % 10 = 0 then
        stripZeros fuel ⟨decimal.digits / 10, decimal.exponent + 1⟩
      else decimal

def leading (decimal : Decimal) : Int :=
  decimal.exponent + (Nat.toDigits 10 decimal.digits).length - 1

def positional (decimal : Decimal) : List Char :=
  let written := Nat.toDigits 10 decimal.digits
  if 0 ≤ decimal.exponent then
    if decimal.digits = 0 then written else written ++ List.replicate decimal.exponent.toNat '0'
  else
    let places := (-decimal.exponent).toNat
    if places < written.length then
      written.take (written.length - places) ++ '.' :: written.drop (written.length - places)
    else
      '0' :: '.' :: (List.replicate (places - written.length) '0' ++ written)

def scientific (decimal : Decimal) : List Char :=
  let sign := if decimal.leading < 0 then '-' else '+'
  let exponent := 'e' :: sign :: Nat.toDigits 10 decimal.leading.natAbs
  match Nat.toDigits 10 decimal.digits with
  | [] => exponent
  | [digit] => digit :: exponent
  | digit :: rest => digit :: '.' :: (rest ++ exponent)

end Decimal

def digitsValue (digits : List Char) : Nat :=
  digits.foldl (fun value digit => 10 * value + (digit.toNat - '0'.toNat)) 0

inductive DecimalText where
  | finite (negative : Bool) (value : Decimal)
  | infinite (negative : Bool)
  | nan (negative : Bool)
  deriving DecidableEq, Repr

namespace DecimalText

def splitSign : List Char → Bool × List Char
  | '-' :: rest => (true, rest)
  | '+' :: rest => (false, rest)
  | text => (false, text)

def exponentPart? (text : List Char) : Option Int :=
  let (negative, digits) := splitSign text
  if digits.isEmpty || !digits.all Char.isDigit then none
  else some (if negative then -(digitsValue digits : Int) else digitsValue digits)

def finite? (text : List Char) : Option Decimal :=
  let whole := text.takeWhile Char.isDigit
  let (places, rest) :=
    match text.dropWhile Char.isDigit with
    | '.' :: rest => (rest.takeWhile Char.isDigit, rest.dropWhile Char.isDigit)
    | rest => ([], rest)
  if whole.isEmpty && places.isEmpty then none
  else
    let digits := digitsValue (whole ++ places)
    match rest with
    | [] => some ⟨digits, -(places.length : Int)⟩
    | mark :: exponent =>
        if mark = 'e' || mark = 'E' then
          (exponentPart? exponent).map fun power => ⟨digits, power - places.length⟩
        else none

def parse? (text : String) : Option DecimalText :=
  let (negative, body) := splitSign text.toList
  match String.ofList (body.map Char.toLower) with
  | "inf" => some (.infinite negative)
  | "infinity" => some (.infinite negative)
  | "nan" => some (.nan negative)
  | _ => (finite? body).map (.finite negative)

end DecimalText

end CSharpLayout
