import CSharpLayout.Json.Value
import CSharpLayout.Number.Shortest
import CSharpLayout.Text.Escape

/-! The writer of JSON text, compact or indented by two spaces a level. -/

namespace CSharpLayout

structure FloatNotation where
  least : Int
  greatest : Int
  deriving DecidableEq, Repr

def FloatNotation.single : FloatNotation := ⟨-6, 12⟩

def FloatNotation.double : FloatNotation := ⟨-5, 15⟩

def FloatNotation.text {format : BinaryFormat} (form : FloatNotation)
    (value : Binary format) : String :=
  match value.shortest? .toEven with
  | none => "null"
  | some decimal =>
      let sign := if value.isNegative then ['-'] else []
      let body :=
        if decimal.digits = 0 || (form.least ≤ decimal.leading && decimal.leading ≤ form.greatest) then
          let plain := decimal.positional
          if plain.contains '.' then plain else plain ++ ['.', '0']
        else decimal.scientific
      String.ofList (sign ++ body)

def JsonNumber.text : JsonNumber → String
  | .integer value => toString value
  | .single value => FloatNotation.single.text value
  | .double value => FloatNotation.double.text value

namespace Json

def quotedChar (c : Char) : List Char :=
  if c = '"' then ['\\', '"']
  else if c = '\\' then ['\\', '\\']
  else if c = '\x08' then ['\\', 'b']
  else if c = '\x0c' then ['\\', 'f']
  else if c = '\n' then ['\\', 'n']
  else if c = '\r' then ['\\', 'r']
  else if c = '\t' then ['\\', 't']
  else if c.toNat < 0x20 then '\\' :: 'u' :: Text.hexadecimal 4 c.toNat
  else [c]

def quoted (text : String) : String :=
  String.ofList ('"' :: (text.toList.flatMap quotedChar ++ ['"']))

mutual

def compact : Json → String
  | .null => "null"
  | .refused => "null"
  | .bool value => if value then "true" else "false"
  | .number value => value.text
  | .string value => quoted value
  | .array items => "[" ++ ",".intercalate (compactItems items) ++ "]"
  | .object entries => "\x7b" ++ ",".intercalate (compactEntries entries) ++ "\x7d"

def compactItems : List Json → List String
  | [] => []
  | item :: rest => item.compact :: compactItems rest

def compactEntries : List (String × Json) → List String
  | [] => []
  | (key, value) :: rest => (quoted key ++ ":" ++ value.compact) :: compactEntries rest

end

def enclosed (opening closing : String) (level : Nat) (lines : List String) : String :=
  let margin := String.ofList (List.replicate (2 * level) ' ')
  match lines with
  | [] => opening ++ closing
  | lines =>
      opening ++ ",".intercalate (lines.map fun line => "\n" ++ margin ++ "  " ++ line) ++ "\n" ++
        margin ++ closing

mutual

def pretty (level : Nat) : Json → String
  | .null => "null"
  | .refused => "null"
  | .bool value => if value then "true" else "false"
  | .number value => value.text
  | .string value => quoted value
  | .array items => enclosed "[" "]" level (prettyItems (level + 1) items)
  | .object entries => enclosed "\x7b" "\x7d" level (prettyEntries (level + 1) entries)

def prettyItems (level : Nat) : List Json → List String
  | [] => []
  | item :: rest => item.pretty level :: prettyItems level rest

def prettyEntries (level : Nat) : List (String × Json) → List String
  | [] => []
  | (key, value) :: rest => (quoted key ++ ": " ++ value.pretty level) :: prettyEntries level rest

end

end Json

end CSharpLayout
