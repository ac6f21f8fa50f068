import CSharpLayout.Spelling

/-! The decisions a layout leaves open, and where they are asked. -/

namespace CSharpLayout

inductive BraceStyle where
  | doNotChange
  | sameLine
  | sameLineNoSpace
  | nextLine
  | nextLineIndented
  | nextLineIndentedTwice
  | banner
  deriving DecidableEq, Repr

instance : Spelled BraceStyle where
  all := [.doNotChange, .sameLine, .sameLineNoSpace, .nextLine, .nextLineIndented,
    .nextLineIndentedTwice, .banner]
  spelling
    | .doNotChange => "doNotChange"
    | .sameLine => "sameLine"
    | .sameLineNoSpace => "sameLineNoSpace"
    | .nextLine => "nextLine"
    | .nextLineIndented => "nextLineIndented"
    | .nextLineIndentedTwice => "nextLineIndented2"
    | .banner => "bannerStyle"

inductive IndentStyle where
  | tabs
  | spaces
  deriving DecidableEq, Repr

instance : Spelled IndentStyle where
  all := [.tabs, .spaces]
  spelling
    | .tabs => "tabs"
    | .spaces => "spaces"

/-- The layout of array and object initializers. No line width is measured, so `wrapIfTooLong`
never wraps. -/
inductive Wrapping where
  | doNotWrap
  | wrapIfTooLong
  | wrapAlways
  deriving DecidableEq, Repr

instance : Spelled Wrapping where
  all := [.doNotWrap, .wrapIfTooLong, .wrapAlways]
  spelling
    | .doNotWrap => "doNotWrap"
    | .wrapIfTooLong => "wrapIfTooLong"
    | .wrapAlways => "wrapAlways"

inductive LineEnding where
  | lf
  | crlf
  deriving DecidableEq, Repr

instance : Spelled LineEnding where
  all := [.lf, .crlf]
  spelling
    | .lf => "lf"
    | .crlf => "crlf"

def LineEnding.text : LineEnding → String
  | .lf => "\n"
  | .crlf => "\r\n"

inductive Preset where
  | allman
  | kr
  | mono
  deriving DecidableEq, Repr

instance : Spelled Preset where
  all := [.allman, .kr, .mono]
  spelling
    | .allman => "allman"
    | .kr => "kr"
    | .mono => "mono"

inductive BraceSite where
  | namespaceBody
  | classBody
  | interfaceBody
  | structBody
  | enumBody
  | method
  | anonymousMethod
  | constructor
  | destructor
  | property
  | propertyGet
  | propertySet
  | event
  | eventAdd
  | eventRemove
  | statement
  deriving DecidableEq, Repr

instance : Spelled BraceSite where
  all := [.namespaceBody, .classBody, .interfaceBody, .structBody, .enumBody, .method,
    .anonymousMethod, .constructor, .destructor, .property, .propertyGet, .propertySet, .event,
    .eventAdd, .eventRemove, .statement]
  spelling
    | .namespaceBody => "namespace"
    | .classBody => "class"
    | .interfaceBody => "interface"
    | .structBody => "struct"
    | .enumBody => "enum"
    | .method => "method"
    | .anonymousMethod => "anonymousMethod"
    | .constructor => "constructor"
    | .destructor => "destructor"
    | .property => "property"
    | .propertyGet => "propertyGet"
    | .propertySet => "propertySet"
    | .event => "event"
    | .eventAdd => "eventAdd"
    | .eventRemove => "eventRemove"
    | .statement => "statement"

/-- The places where a space may stand: outside a token, inside a pair of parentheses or brackets, or on both
sides of an operator. -/
inductive SpaceSite where
  | beforeComma
  | afterComma
  | withinBrackets
  | beforeMethodCallParentheses
  | withinMethodCallParentheses
  | beforeMethodDeclarationParentheses
  | withinMethodDeclarationParentheses
  | beforeConstructorDeclarationParentheses
  | beforeDelegateDeclarationParentheses
  | aroundAssignment
  | aroundBitwiseOperator
  | aroundLogicalOperator
  | aroundRelationalOperator
  | aroundEqualityOperator
  | aroundAdditiveOperator
  | aroundMultiplicativeOperator
  | aroundShiftOperator
  | withinCastParentheses
  | afterTypecast
  | withinCheckedParentheses
  | beforeConditionalOperatorCondition
  | afterConditionalOperatorCondition
  | beforeConditionalOperatorSeparator
  | afterConditionalOperatorSeparator
  | withinTypeofParentheses
  | withinSizeofParentheses
  | withinParentheses
  | beforeIfParentheses
  | withinIfParentheses
  | beforeWhileParentheses
  | withinWhileParentheses
  | beforeForParentheses
  | withinForParentheses
  | beforeForeachParentheses
  | withinForeachParentheses
  | beforeCatchParentheses
  | withinCatchParentheses
  | beforeSwitchParentheses
  | withinSwitchParentheses
  | beforeLockParentheses
  | withinLockParentheses
  | beforeUsingParentheses
  | withinUsingParentheses
  | beforeForSemicolon
  | afterForSemicolon
  deriving DecidableEq, Repr

instance : Spelled SpaceSite where
  all := [.beforeComma, .afterComma, .withinBrackets, .beforeMethodCallParentheses,
    .withinMethodCallParentheses, .beforeMethodDeclarationParentheses,
    .withinMethodDeclarationParentheses, .beforeConstructorDeclarationParentheses,
    .beforeDelegateDeclarationParentheses, .aroundAssignment, .aroundBitwiseOperator,
    .aroundLogicalOperator, .aroundRelationalOperator, .aroundEqualityOperator,
    .aroundAdditiveOperator, .aroundMultiplicativeOperator, .aroundShiftOperator,
    .withinCastParentheses, .afterTypecast, .withinCheckedParentheses,
    .beforeConditionalOperatorCondition, .afterConditionalOperatorCondition,
    .beforeConditionalOperatorSeparator, .afterConditionalOperatorSeparator,
    .withinTypeofParentheses, .withinSizeofParentheses, .withinParentheses, .beforeIfParentheses,
    .withinIfParentheses, .beforeWhileParentheses, .withinWhileParentheses, .beforeForParentheses,
    .withinForParentheses, .beforeForeachParentheses, .withinForeachParentheses,
    .beforeCatchParentheses, .withinCatchParentheses, .beforeSwitchParentheses,
    .withinSwitchParentheses, .beforeLockParentheses, .withinLockParentheses,
    .beforeUsingParentheses, .withinUsingParentheses, .beforeForSemicolon, .afterForSemicolon]
  spelling
    | .beforeComma => "beforeComma"
    | .afterComma => "afterComma"
    | .withinBrackets => "withinBrackets"
    | .beforeMethodCallParentheses => "beforeMethodCallParentheses"
    | .withinMethodCallParentheses => "withinMethodCallParentheses"
    | .beforeMethodDeclarationParentheses => "beforeMethodDeclarationParentheses"
    | .withinMethodDeclarationParentheses => "withinMethodDeclarationParentheses"
    | .beforeConstructorDeclarationParentheses => "beforeConstructorDeclarationParentheses"
    | .beforeDelegateDeclarationParentheses => "beforeDelegateDeclarationParentheses"
    | .aroundAssignment => "aroundAssignment"
    | .aroundBitwiseOperator => "aroundBitwiseOperator"
    | .aroundLogicalOperator => "aroundLogicalOperator"
    | .aroundRelationalOperator => "aroundRelationalOperator"
    | .aroundEqualityOperator => "aroundEqualityOperator"
    | .aroundAdditiveOperator => "aroundAdditiveOperator"
    | .aroundMultiplicativeOperator => "aroundMultiplicativeOperator"
    | .aroundShiftOperator => "aroundShiftOperator"
    | .withinCastParentheses => "withinCastParentheses"
    | .afterTypecast => "afterTypecast"
    | .withinCheckedParentheses => "withinCheckedParentheses"
    | .beforeConditionalOperatorCondition => "beforeConditionalOperatorCondition"
    | .afterConditionalOperatorCondition => "afterConditionalOperatorCondition"
    | .beforeConditionalOperatorSeparator => "beforeConditionalOperatorSeparator"
    | .afterConditionalOperatorSeparator => "afterConditionalOperatorSeparator"
    | .withinTypeofParentheses => "withinTypeofParentheses"
    | .withinSizeofParentheses => "withinSizeofParentheses"
    | .withinParentheses => "withinParentheses"
    | .beforeIfParentheses => "beforeIfParentheses"
    | .withinIfParentheses => "withinIfParentheses"
    | .beforeWhileParentheses => "beforeWhileParentheses"
    | .withinWhileParentheses => "withinWhileParentheses"
    | .beforeForParentheses => "beforeForParentheses"
    | .withinForParentheses => "withinForParentheses"
    | .beforeForeachParentheses => "beforeForeachParentheses"
    | .withinForeachParentheses => "withinForeachParentheses"
    | .beforeCatchParentheses => "beforeCatchParentheses"
    | .withinCatchParentheses => "withinCatchParentheses"
    | .beforeSwitchParentheses => "beforeSwitchParentheses"
    | .withinSwitchParentheses => "withinSwitchParentheses"
    | .beforeLockParentheses => "beforeLockParentheses"
    | .withinLockParentheses => "withinLockParentheses"
    | .beforeUsingParentheses => "beforeUsingParentheses"
    | .withinUsingParentheses => "withinUsingParentheses"
    | .beforeForSemicolon => "beforeForSemicolon"
    | .afterForSemicolon => "afterForSemicolon"

end CSharpLayout
