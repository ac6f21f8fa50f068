import CSharpLayout.Policy.Option

/-! A policy answers every question of layout. Only white space depends on it. -/

namespace CSharpLayout

structure Indentation where
  style : IndentStyle := .tabs
  size : Nat := 4
  switchBody : Bool := true
  caseBody : Bool := true
  deriving DecidableEq, Repr

def Indentation.unit (indentation : Indentation) : String :=
  match indentation.style with
  | .tabs => "\t"
  | .spaces => String.ofList (List.replicate indentation.size ' ')

structure BlankLines where
  betweenMembers : Nat := 1
  afterUsings : Nat := 1
  deriving DecidableEq, Repr

structure Policy where
  braces : BraceSite → BraceStyle
  spacing : SpaceSite → Bool
  indentation : Indentation := {}
  blankLines : BlankLines := {}
  arrayInitializer : Wrapping := .wrapIfTooLong
  lineEnding : LineEnding := .lf

namespace Policy

def usualSpacing : SpaceSite → Bool
  | .afterComma => true
  | .aroundAssignment => true
  | .aroundBitwiseOperator => true
  | .aroundLogicalOperator => true
  | .aroundRelationalOperator => true
  | .aroundEqualityOperator => true
  | .aroundAdditiveOperator => true
  | .aroundMultiplicativeOperator => true
  | .aroundShiftOperator => true
  | .beforeConditionalOperatorCondition => true
  | .afterConditionalOperatorCondition => true
  | .beforeConditionalOperatorSeparator => true
  | .afterConditionalOperatorSeparator => true
  | .beforeIfParentheses => true
  | .beforeWhileParentheses => true
  | .beforeForParentheses => true
  | .beforeForeachParentheses => true
  | .beforeCatchParentheses => true
  | .beforeSwitchParentheses => true
  | .beforeLockParentheses => true
  | .beforeUsingParentheses => true
  | .afterForSemicolon => true
  | _ => false

def allman : Policy where
  braces _ := .nextLine
  spacing := usualSpacing

def kr : Policy := { allman with braces := fun _ => .sameLine }

def mono : Policy where
  braces
    | .namespaceBody => .nextLine
    | .classBody => .nextLine
    | .interfaceBody => .nextLine
    | .structBody => .nextLine
    | .enumBody => .nextLine
    | .method => .nextLine
    | .constructor => .nextLine
    | .destructor => .nextLine
    | _ => .sameLine
  spacing
    | .beforeMethodCallParentheses => true
    | .beforeMethodDeclarationParentheses => true
    | .beforeConstructorDeclarationParentheses => true
    | .beforeDelegateDeclarationParentheses => true
    | site => usualSpacing site
  indentation := { switchBody := false }

def ofPreset : Preset → Policy
  | .allman => allman
  | .kr => kr
  | .mono => mono

def standard : Policy := allman

end Policy

end CSharpLayout
