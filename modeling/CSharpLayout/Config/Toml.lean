import CSharpLayout.Config.Dialect
import CSharpLayout.Toml.Reader

/-! Configurations in TOML. -/

namespace CSharpLayout

namespace Toml

def Value.text? : Value → Option String
  | .string value => some value
  | _ => none

def Value.truth? : Value → Option Bool
  | .bool value => some value
  | _ => none

def Value.count? : Value → Option Nat
  | .integer value => if 0 ≤ value ∧ value < Int.pow 2 64 then some value.toNat else none
  | _ => none

def Value.word? : Value → Option String
  | .string value => some value
  | .table _ [(name, .array [])] => some name
  | .table _ [(name, .table _ [])] => some name
  | _ => none

def Value.items? : Value → Option (List Value)
  | .array items => some items
  | .tables items => some (items.map (.table .header))
  | _ => none

def Value.fields? (names : List String) (value : Value) : Option (List (Option Value)) :=
  match value, value.items? with
  | .table _ entries, _ => namedFields? names entries
  | _, some items =>
      if names.length ≤ items.length then some ((items.take names.length).map some) else none
  | _, none => none

def dialect : Dialect Value where
  isUnset := fun _ => false
  text? := Value.text?
  truth? := Value.truth?
  count? := Value.count?
  word? := Value.word?
  items? := Value.items?
  fields? := Value.fields?

end Toml

def Config.ofToml? (text : String) : Option Config :=
  (Toml.parse? text).bind fun entries => Toml.dialect.config? (.table .header entries)

end CSharpLayout
