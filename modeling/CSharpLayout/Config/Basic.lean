import CSharpLayout.Error
import CSharpLayout.Policy.Basic

/-! Configurations. Every option may be unset; a configuration is merged with the ones it inherits from, and
the options that are still unset come from a preset. -/

namespace CSharpLayout

structure BlankLinesConfig where
  betweenMembers : Option Nat := none
  afterUsings : Option Nat := none
  deriving DecidableEq, Repr

structure WrappingConfig where
  arrayInitializer : Option Wrapping := none
  deriving DecidableEq, Repr

structure FormatterConfig where
  enabled : Option Bool := none
  preset : Option Preset := none
  indentStyle : Option IndentStyle := none
  indentSize : Option Nat := none
  lineEnding : Option LineEnding := none
  switchBody : Option Bool := none
  caseBody : Option Bool := none
  braces : Option (BraceSite → Option BraceStyle) := none
  spacing : Option (SpaceSite → Option Bool) := none
  blankLines : Option BlankLinesConfig := none
  wrapping : Option WrappingConfig := none

structure Config where
  schema : Option String := none
  isRoot : Option Bool := none
  parents : Option (List String) := none
  formatter : Option FormatterConfig := none

def mergeSections {α : Type} (merge : α → α → α) : Option α → Option α → Option α
  | some child, some parent => some (merge child parent)
  | some child, none => some child
  | none, parent => parent

def mergeSites {σ α : Type} (child parent : σ → Option α) : σ → Option α :=
  fun site => child site <|> parent site

namespace BlankLinesConfig

def merge (child parent : BlankLinesConfig) : BlankLinesConfig where
  betweenMembers := child.betweenMembers <|> parent.betweenMembers
  afterUsings := child.afterUsings <|> parent.afterUsings

end BlankLinesConfig

namespace WrappingConfig

def merge (child parent : WrappingConfig) : WrappingConfig where
  arrayInitializer := child.arrayInitializer <|> parent.arrayInitializer

end WrappingConfig

namespace FormatterConfig

/-- The options of the child, and those of the parent where the child has none. -/
def merge (child parent : FormatterConfig) : FormatterConfig where
  enabled := child.enabled <|> parent.enabled
  preset := child.preset <|> parent.preset
  indentStyle := child.indentStyle <|> parent.indentStyle
  indentSize := child.indentSize <|> parent.indentSize
  lineEnding := child.lineEnding <|> parent.lineEnding
  switchBody := child.switchBody <|> parent.switchBody
  caseBody := child.caseBody <|> parent.caseBody
  braces := mergeSections mergeSites child.braces parent.braces
  spacing := mergeSections mergeSites child.spacing parent.spacing
  blankLines := mergeSections BlankLinesConfig.merge child.blankLines parent.blankLines
  wrapping := mergeSections WrappingConfig.merge child.wrapping parent.wrapping

def largestIndent : Nat := 16

def isValidIndent (size : Nat) : Bool := 1 ≤ size && size ≤ largestIndent

def apply (config : FormatterConfig) : Policy :=
  let base := Policy.ofPreset (config.preset.getD .allman)
  { braces := fun site => (config.braces.bind fun styles => styles site).getD (base.braces site)
    spacing := fun site => (config.spacing.bind fun flags => flags site).getD (base.spacing site)
    indentation :=
      { style := config.indentStyle.getD base.indentation.style
        size := config.indentSize.getD base.indentation.size
        switchBody := config.switchBody.getD base.indentation.switchBody
        caseBody := config.caseBody.getD base.indentation.caseBody }
    blankLines :=
      { betweenMembers :=
          (config.blankLines.bind BlankLinesConfig.betweenMembers).getD base.blankLines.betweenMembers
        afterUsings :=
          (config.blankLines.bind BlankLinesConfig.afterUsings).getD base.blankLines.afterUsings }
    arrayInitializer :=
      (config.wrapping.bind WrappingConfig.arrayInitializer).getD base.arrayInitializer
    lineEnding := config.lineEnding.getD base.lineEnding }

/-- The policy the options describe. -/
def policy (config : FormatterConfig) : Except Error Policy :=
  match config.indentSize with
  | none => .ok config.apply
  | some size =>
      if isValidIndent size then .ok config.apply
      else
        .error (.configuration
          ("indentSize must be between 1 and " ++ toString largestIndent ++ ", got " ++ toString size))

end FormatterConfig

namespace Config

/-- The schema, the root mark and the parents belong to one file and are never merged. -/
def merge (child parent : Config) : Config :=
  { child with
    formatter := mergeSections FormatterConfig.merge child.formatter parent.formatter }

/-- The policy of a configuration. Without a formatter section, or with a disabled one, it is the
standard policy. -/
def policy (config : Config) : Except Error Policy :=
  match config.formatter with
  | none => .ok .standard
  | some formatter =>
      if formatter.enabled = some false then .ok .standard else formatter.policy

def withPreset (config : Config) : Option Preset → Config
  | none => config
  | some preset =>
      { config with formatter := some { config.formatter.getD {} with preset := some preset } }

end Config

end CSharpLayout
