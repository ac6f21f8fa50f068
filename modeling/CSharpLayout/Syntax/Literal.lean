import CSharpLayout.Number.Shortest
import CSharpLayout.Text.Escape

/-! Literal values and their spelling in source text. -/

namespace CSharpLayout

/-- A literal value. Integral kinds fix the suffix; `decimal` keeps its digits as text. -/
inductive Literal where
  | null
  | bool (value : Bool)
  | char (value : Char)
  | string (value : String)
  | int (value : Int32)
  | uint (value : UInt32)
  | long (value : Int64)
  | ulong (value : UInt64)
  | float (value : Single)
  | double (value : Double)
  | decimal (digits : String)
  deriving DecidableEq, Repr

namespace Literal

/-- Floating-point digits are the fewest that read back, written without an exponent;
of two equally near candidates the larger is taken. -/
def floatDigits {format : BinaryFormat} (value : Binary format) : List Char :=
  match value.shortest? .up with
  | some shortest => (if value.isNegative then ['-'] else []) ++ shortest.positional
  | none => []

def specialValue {format : BinaryFormat} (keyword : String) (value : Binary format) : String :=
  match value.magnitude with
  | .nan => keyword ++ ".NaN"
  | _ => keyword ++ (if value.isNegative then ".NegativeInfinity" else ".PositiveInfinity")

def floatText (value : Single) : String :=
  if value.isFinite then String.ofList (floatDigits value ++ ['f']) else specialValue "float" value

def doubleText (value : Double) : String :=
  if value.isFinite then
    let digits := floatDigits value
    String.ofList (if digits.contains '.' then digits else digits ++ ['.', '0'])
  else specialValue "double" value

def text : Literal → String
  | null => "null"
  | bool value => if value then "true" else "false"
  | char value => String.ofList ('\x27' :: (Text.escapeCharBody value ++ ['\x27']))
  | string value => String.ofList ('"' :: (Text.escapeString value.toList ++ ['"']))
  | int value => toString value.toInt
  | uint value => toString value.toNat ++ "u"
  | long value => toString value.toInt ++ "L"
  | ulong value => toString value.toNat ++ "UL"
  | float value => floatText value
  | double value => doubleText value
  | decimal digits => digits ++ "m"

def isNegative : Literal → Bool
  | int value => value < 0
  | long value => value < 0
  | float value => value.isNegative && value.isFinite
  | double value => value.isNegative && value.isFinite
  | decimal digits => digits.toList.head? == some '-'
  | _ => false

def isQuoted : Literal → Bool
  | string _ => true
  | char _ => true
  | _ => false

end Literal

end CSharpLayout
