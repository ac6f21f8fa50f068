import CSharpLayout.Json.Value
import CSharpLayout.Number.Decimal
import CSharpLayout.Policy.Option

/-! The JSON Schema of configuration files, and pointers into it. -/

namespace CSharpLayout

namespace Schema

def described (text : String) (entries : List (String × Json)) : List (String × Json) :=
  ("description", .string text) :: entries

def optionalOf (type : String) : List (String × Json) :=
  [("type", .array [.string type, .string "null"])]

def optionalCount : List (String × Json) :=
  optionalOf "integer" ++ [("format", .string "uint"), ("minimum", .integer 0)]

def optionalRef (name : String) : List (String × Json) :=
  [("anyOf", .array [
    .object [("$ref", .string ("#/$defs/" ++ name))],
    .object [("type", .string "null")]])]

def objectOf (properties : List (String × List (String × Json))) : List (String × Json) :=
  [("type", .string "object"),
    ("properties", .object (properties.map fun (name, entries) => (name, .object entries))),
    ("additionalProperties", .bool false)]

def spellingOf (α : Type) [Spelled α] : List (String × Json) :=
  [("type", .string "string"), ("enum", .array ((Spelled.spellings α).map .string))]

def constant {α : Type} [Spelled α] (value : α) (text : String) : Json :=
  .object (described text
    [("type", .string "string"), ("const", .string (Spelled.spelling value))])

def preset : List (String × Json) :=
  described "Named starting points for a policy" [("oneOf", .array [
    constant Preset.allman "Every brace on its own line",
    constant Preset.kr "Opening braces on the header line",
    constant Preset.mono "Mono coding guidelines"])]

def braceStyle : List (String × Json) :=
  described "Placement of an opening and closing brace" [("oneOf", .array [
    constant BraceStyle.doNotChange "Printed like `SameLine`",
    constant BraceStyle.sameLine "`header \x7b`",
    constant BraceStyle.sameLineNoSpace "`header\x7b`",
    constant BraceStyle.nextLine "Brace on its own line at the header's indentation",
    constant BraceStyle.nextLineIndented
      "Brace on its own line, indented one level; the body shares its level",
    constant BraceStyle.nextLineIndentedTwice
      "Brace on its own line, indented one level; the body one level deeper",
    constant BraceStyle.banner "`header \x7b` with the closing brace aligned to the body"])]

def wrapping : List (String × Json) :=
  described "Array and object initializer layout" [("oneOf", .array [
    .object [("type", .string "string"),
      ("enum", .array [.string (Spelled.spelling Wrapping.doNotWrap)])],
    constant Wrapping.wrapIfTooLong "Treated as `DoNotWrap`; no line width is measured",
    constant Wrapping.wrapAlways "Each element on its own line, braces on their own lines"])]

def braceSite (site : BraceSite) : List (String × Json) :=
  match site with
  | .anonymousMethod => described "Anonymous methods and lambda bodies" (optionalRef "BraceStyle")
  | .statement => described "Statement blocks" (optionalRef "BraceStyle")
  | _ => optionalRef "BraceStyle"

def formatter : List (String × Json) :=
  described "Formatter configuration" (objectOf [
    ("enabled", described "Enable or disable the formatter section" (optionalOf "boolean")),
    ("preset", described "Starting point for every option: 'allman', 'kr' or 'mono'"
      (optionalRef "Preset")),
    ("indentStyle", described "Indentation style: 'tabs' or 'spaces'" (optionalRef "IndentStyle")),
    ("indentSize", described "Number of spaces per level when indentStyle is 'spaces'"
      optionalCount),
    ("newLine", described "Line terminator: 'lf' or 'crlf'" (optionalRef "NewLine")),
    ("indentSwitchBody", described "Indent case sections inside switch braces"
      (optionalOf "boolean")),
    ("indentCaseBody", described "Indent statements under case labels" (optionalOf "boolean")),
    ("braces", described "Brace placement per construct" (optionalRef "BracesConfiguration")),
    ("spacing", described "Space placement around tokens" (optionalRef "SpacingConfiguration")),
    ("blankLines", described "Line breaks between members and after usings"
      (optionalRef "BlankLinesConfiguration")),
    ("wrapping", described "Array and object initializer wrapping"
      (optionalRef "WrappingConfiguration"))])

def definitions : List (String × List (String × Json)) :=
  [("FormatterConfiguration", formatter),
    ("Preset", preset),
    ("IndentStyle", spellingOf IndentStyle),
    ("NewLine", spellingOf LineEnding),
    ("BracesConfiguration", described "Brace placement per construct" (objectOf
      ((Spelled.all : List BraceSite).map fun site => (Spelled.spelling site, braceSite site)))),
    ("BraceStyle", braceStyle),
    ("SpacingConfiguration", described "Space placement around tokens" (objectOf
      ((Spelled.spellings SpaceSite).map fun name => (name, optionalOf "boolean")))),
    ("BlankLinesConfiguration", described "Line breaks between members and after usings" (objectOf
      [("betweenMembers", optionalCount), ("afterUsings", optionalCount)])),
    ("WrappingConfiguration", described "Initializer wrapping" (objectOf
      [("arrayInitializer", optionalRef "Wrapping")])),
    ("Wrapping", wrapping)]

def document : Json :=
  .object (
    [("$schema", .string "https://json-schema.org/draft/2020-12/schema"),
      ("title", .string "sharpout configuration"),
      ("description", .string "Configuration file schema for sharpout formatting policies")] ++
    objectOf [
      ("$schema", described "JSON Schema reference" (optionalOf "string")),
      ("root", described "Mark this as the root configuration" (optionalOf "boolean")),
      ("extends", described "Configuration files to inherit from; this file wins on conflicts"
        (optionalOf "array" ++ [("items", .object [("type", .string "string")])])),
      ("formatter", described "Output layout options" (optionalRef "FormatterConfiguration"))] ++
    [("$defs", .object (definitions.map fun (name, entries) => (name, .object entries)))])

end Schema

namespace Json

def pointerToken : List Char → List Char
  | [] => []
  | '~' :: '1' :: rest => '/' :: pointerToken rest
  | '~' :: '0' :: rest => '~' :: pointerToken rest
  | c :: rest => c :: pointerToken rest

def pointerIndex? (token : String) : Option Nat :=
  let digits := token.toList
  if digits.isEmpty || !digits.all Char.isDigit || (digits.length > 1 && digits.head? == some '0') then
    none
  else some (digitsValue digits)

def pointerStep (value : Json) (token : String) : Option Json :=
  match value with
  | .object entries => entries.lookup token
  | .array items => (pointerIndex? token).bind fun index => items[index]?
  | _ => none

/-- The part of a value at a pointer. The empty pointer is the whole value, and any other starts with a
slash. -/
def atPointer? (value : Json) (pointer : String) : Option Json :=
  if pointer.isEmpty then some value
  else match pointer.splitOn "/" with
    | "" :: tokens =>
        tokens.foldlM (fun found token =>
          found.pointerStep (String.ofList (pointerToken token.toList))) value
    | _ => none

end Json

end CSharpLayout
