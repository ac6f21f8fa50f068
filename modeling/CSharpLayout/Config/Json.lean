import CSharpLayout.Config.Dialect
import CSharpLayout.Json.Row

/-! Configurations and policies in JSON. Unknown names are refused. -/

namespace CSharpLayout

namespace Json

def count? (value : Json) : Option Nat := value.uint64?.map UInt64.toNat

def count (value : Nat) : Json := .integer value

def orNull {α : Type} (write : α → Json) : Option α → Json
  | none => .null
  | some value => write value

end Json

/-- Fields in a JSON value: an object with their names, or an array of all of them in order. -/
def Json.fields? (names : List String) : Json → Option (List (Option Json))
  | .object entries => namedFields? names entries
  | .array items => if items.length = names.length then some (items.map some) else none
  | _ => none

def Json.dialect : Dialect Json where
  isUnset := Json.isNull
  text? := Json.string?
  truth? := Json.bool?
  count? := Json.count?
  word? := caseName? false
  items? := Json.array?
  fields? := Json.fields?

def sitesToJson {σ α : Type} [Spelled σ] (write : α → Json) (options : σ → Option α) : Json :=
  .object ((Spelled.all : List σ).map fun site =>
    (Spelled.spelling site, Json.orNull write (options site)))

namespace BlankLinesConfig

def toJson (config : BlankLinesConfig) : Json :=
  .object [
    ("betweenMembers", Json.orNull Json.count config.betweenMembers),
    ("afterUsings", Json.orNull Json.count config.afterUsings)]

end BlankLinesConfig

namespace WrappingConfig

def toJson (config : WrappingConfig) : Json :=
  .object [("arrayInitializer", Json.orNull Json.spelled config.arrayInitializer)]

end WrappingConfig

namespace FormatterConfig

def ofJson? : Json → Option FormatterConfig := Json.dialect.formatter?

def toJson (config : FormatterConfig) : Json :=
  .object (
    Json.entryOf "enabled" (config.enabled.map .bool) ++
    Json.entryOf "preset" (config.preset.map Json.spelled) ++
    Json.entryOf "indentStyle" (config.indentStyle.map Json.spelled) ++
    Json.entryOf "indentSize" (config.indentSize.map Json.count) ++
    Json.entryOf "newLine" (config.lineEnding.map Json.spelled) ++
    Json.entryOf "indentSwitchBody" (config.switchBody.map .bool) ++
    Json.entryOf "indentCaseBody" (config.caseBody.map .bool) ++
    Json.entryOf "braces" (config.braces.map (sitesToJson Json.spelled)) ++
    Json.entryOf "spacing" (config.spacing.map (sitesToJson .bool)) ++
    Json.entryOf "blankLines" (config.blankLines.map BlankLinesConfig.toJson) ++
    Json.entryOf "wrapping" (config.wrapping.map WrappingConfig.toJson))

end FormatterConfig

namespace Config

def ofJson? : Json → Option Config := Json.dialect.config?

def toJson (config : Config) : Json :=
  .object (
    Json.entryOf "$schema" (config.schema.map .string) ++
    Json.entryOf "root" (config.isRoot.map .bool) ++
    Json.entryOf "extends" (config.parents.map fun parents => .array (parents.map .string)) ++
    Json.entryOf "formatter" (config.formatter.map FormatterConfig.toJson))

end Config

def snakeCase (name : String) : String :=
  String.ofList (name.toList.flatMap fun c => if c.isUpper then ['_', c.toLower] else [c])

def everySiteToJson {σ α : Type} [Spelled σ] (write : α → Json) (values : σ → α) : Json :=
  .object ((Spelled.all : List σ).map fun site =>
    (snakeCase (Spelled.spelling site), write (values site)))

def Policy.toJson (policy : Policy) : Json :=
  .object [
    ("braces", everySiteToJson Json.spelled policy.braces),
    ("spacing", everySiteToJson .bool policy.spacing),
    ("indentation", .object [
      ("style", Json.spelled policy.indentation.style),
      ("size", Json.count policy.indentation.size),
      ("indent_switch_body", .bool policy.indentation.switchBody),
      ("indent_case_body", .bool policy.indentation.caseBody)]),
    ("blank_lines", .object [
      ("between_members", Json.count policy.blankLines.betweenMembers),
      ("after_usings", Json.count policy.blankLines.afterUsings)]),
    ("wrapping", .object [("array_initializer", Json.spelled policy.arrayInitializer)]),
    ("new_line", Json.spelled policy.lineEnding)]

end CSharpLayout
