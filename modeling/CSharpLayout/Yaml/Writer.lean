import CSharpLayout.Json.Writer

/-! Configurations as YAML text. -/

namespace CSharpLayout

namespace Yaml

def inlineText : Json → String
  | .string value => value
  | value => value.compact

def render (entries : List (String × Json)) : String :=
  String.join (entries.map fun entry =>
    match entry.2 with
    | .object inner =>
        entry.1 ++ ":\n" ++ String.join (inner.map fun option =>
          "  " ++ option.1 ++ ": " ++ inlineText option.2 ++ "\n")
    | value => entry.1 ++ ": " ++ inlineText value ++ "\n")

end Yaml

end CSharpLayout
