import CSharpLayout.Json.Writer

/-! Configurations as TOML text. -/

namespace CSharpLayout

namespace Toml

def isTable : Json → Bool
  | .object _ => true
  | _ => false

def valueLines (entries : List (String × Json)) : List String :=
  (entries.filter fun entry => !isTable entry.2 && !entry.2.isNull).map fun entry =>
    entry.1 ++ " = " ++ entry.2.compact ++ "\n"

def render (entries : List (String × Json)) : String :=
  let plain := valueLines entries
  let tables := entries.filterMap fun entry =>
    match entry.2 with
    | .object inner => some (String.join (("[" ++ entry.1 ++ "]\n") :: valueLines inner))
    | _ => none
  "\n".intercalate ((if plain.isEmpty then [] else [String.join plain]) ++ tables)

end Toml

end CSharpLayout
