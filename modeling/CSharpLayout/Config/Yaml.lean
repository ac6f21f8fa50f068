import CSharpLayout.Config.Dialect
import CSharpLayout.Number.Decimal
import CSharpLayout.Yaml.Reader

/-! Configurations in YAML. The option decides what a plain scalar stands for. -/

namespace CSharpLayout

namespace Yaml

def word64? (base : Nat) (digits : List Char) : Option Nat :=
  if digits.isEmpty then none
  else
    (digits.foldlM (fun total c =>
      (hexDigit? c).bind fun digit => if digit < base then some (base * total + digit) else none)
      0).bind fun value => if value < Nat.pow 2 64 then some value else none

/-- A number without a minus sign, in decimal, hexadecimal, octal or binary digits. A decimal number
other than zero does not start with a zero. -/
def count? (text : List Char) : Option Nat :=
  let digits := match text with
    | '+' :: rest => rest
    | _ => text
  match digits with
  | '0' :: 'x' :: rest => word64? 16 rest
  | '0' :: 'o' :: rest => word64? 8 rest
  | '0' :: 'b' :: rest => word64? 2 rest
  | '0' :: _ :: _ => none
  | _ => word64? 10 digits

def Node.isUnset : Node → Bool
  | .plain text => ["", "~", "null", "Null", "NULL"].contains text
  | _ => false

def Node.text? : Node → Option String
  | .plain text => some text
  | .quoted text => some text
  | _ => none

def Node.truth? : Node → Option Bool
  | .plain text =>
      if ["true", "True", "TRUE"].contains text then some true
      else if ["false", "False", "FALSE"].contains text then some false
      else none
  | _ => none

def Node.count? : Node → Option Nat
  | .plain text => Yaml.count? text.toList
  | _ => none

def Node.items? : Node → Option (List Node)
  | .sequence items => some items
  | _ => none

def Node.fields? (names : List String) : Node → Option (List (Option Node))
  | .mapping entries => namedFields? names entries
  | .plain "" => namedFields? names []
  | _ => none

def dialect : Dialect Node where
  isUnset := Node.isUnset
  text? := Node.text?
  truth? := Node.truth?
  count? := Node.count?
  word? := Node.text?
  items? := Node.items?
  fields? := Node.fields?

end Yaml

def Config.ofYaml? (text : String) : Option Config := (Yaml.parse? text).bind Yaml.dialect.config?

end CSharpLayout
