import CSharpLayout.Config.Basic

/-! Configurations from the values of any file format. A dialect says how the values of one format stand
for options. Unknown names are refused. -/

namespace CSharpLayout

/-- How the values of a format are read. `word?` is the spelling of a choice, and `fields?` looks up the
fields of a record by their names. -/
structure Dialect (ν : Type) where
  isUnset : ν → Bool
  text? : ν → Option String
  truth? : ν → Option Bool
  count? : ν → Option Nat
  word? : ν → Option String
  items? : ν → Option (List ν)
  fields? : List String → ν → Option (List (Option ν))

def namedFields? {ν : Type} (names : List String) (entries : List (String × ν)) :
    Option (List (Option ν)) :=
  if entries.all fun entry => names.contains entry.1 then
    names.mapM fun name =>
      match entries.filter fun entry => entry.1 == name with
      | [] => some none
      | [entry] => some (some entry.2)
      | _ => none
  else none

namespace Dialect

variable {ν α : Type} (dialect : Dialect ν)

def option? (read : ν → Option α) : Option ν → Option (Option α)
  | none => some none
  | some value => if dialect.isUnset value then some none else (read value).map some

def choice? [Spelled α] (value : ν) : Option α :=
  (dialect.word? value).bind Spelled.ofSpelling?

def sites? {σ : Type} [Spelled σ] [DecidableEq σ] (read : ν → Option α) (value : ν) :
    Option (σ → Option α) := do
  let fields ← dialect.fields? (Spelled.spellings σ) value
  let values ← fields.mapM (dialect.option? read)
  let table := (Spelled.all : List σ).zip values
  some fun site => (table.lookup site).join

def blankLines? (value : ν) : Option BlankLinesConfig := do
  match ← dialect.fields? ["betweenMembers", "afterUsings"] value with
  | [betweenMembers, afterUsings] =>
      some {
        betweenMembers := ← dialect.option? dialect.count? betweenMembers
        afterUsings := ← dialect.option? dialect.count? afterUsings }
  | _ => none

def wrapping? (value : ν) : Option WrappingConfig := do
  match ← dialect.fields? ["arrayInitializer"] value with
  | [arrayInitializer] =>
      some { arrayInitializer := ← dialect.option? dialect.choice? arrayInitializer }
  | _ => none

def formatter? (value : ν) : Option FormatterConfig := do
  match ← dialect.fields? ["enabled", "preset", "indentStyle", "indentSize", "newLine",
      "indentSwitchBody", "indentCaseBody", "braces", "spacing", "blankLines", "wrapping"] value with
  | [enabled, preset, indentStyle, indentSize, lineEnding, switchBody, caseBody, braces, spacing,
      blankLines, wrapping] =>
      some {
        enabled := ← dialect.option? dialect.truth? enabled
        preset := ← dialect.option? dialect.choice? preset
        indentStyle := ← dialect.option? dialect.choice? indentStyle
        indentSize := ← dialect.option? dialect.count? indentSize
        lineEnding := ← dialect.option? dialect.choice? lineEnding
        switchBody := ← dialect.option? dialect.truth? switchBody
        caseBody := ← dialect.option? dialect.truth? caseBody
        braces := ← dialect.option? (dialect.sites? dialect.choice?) braces
        spacing := ← dialect.option? (dialect.sites? dialect.truth?) spacing
        blankLines := ← dialect.option? dialect.blankLines? blankLines
        wrapping := ← dialect.option? dialect.wrapping? wrapping }
  | _ => none

def texts? (value : ν) : Option (List String) :=
  (dialect.items? value).bind fun items => items.mapM dialect.text?

def config? (value : ν) : Option Config := do
  match ← dialect.fields? ["$schema", "root", "extends", "formatter"] value with
  | [schema, isRoot, parents, formatter] =>
      some {
        schema := ← dialect.option? dialect.text? schema
        isRoot := ← dialect.option? dialect.truth? isRoot
        parents := ← dialect.option? dialect.texts? parents
        formatter := ← dialect.option? dialect.formatter? formatter }
  | _ => none

end Dialect

end CSharpLayout
