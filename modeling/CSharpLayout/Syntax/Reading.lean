import CSharpLayout.Json.Row
import CSharpLayout.Syntax.Declaration

/-! Records of a tree from JSON values. The tagged families contain one another and themselves, so what is
nested is read through a table with one reader for each family. -/

namespace CSharpLayout

open Json

/-- Readers for what is nested in a value. `inner` says that the value stands inside a tagged one. -/
structure Readers where
  inner : Bool
  typeRef : Json → Option TypeRef
  pattern : Json → Option Pattern
  expression : Json → Option Expression
  queryClause : Json → Option QueryClause
  statement : Json → Option Statement
  typeMember : Json → Option TypeMember
  namespaceMember : Json → Option NamespaceMember

def record? {α : Type} (names : List String) (build : List Cell → Option α) (row : Row) : Option α :=
  (row.cells? names).bind build

def recordOf? {α : Type} (read : Row → Option α) (value : Json) : Option α :=
  (Row.ofJson? value).bind read

def unit? {α : Type} (value : α) (row : Row) : Option α := if row.isBlank then some value else none

def Identifier.ofJson? (inner : Bool) : Json → Option Identifier :=
  recordOf? <| record? ["name", "verbatim", "class"] fun
    | [name, verbatim, tokenClass] => do
        let name ← name.required string?
        let verbatim ← verbatim.withDefault false bool?
        let tokenClass ← tokenClass.optional (spelled? inner)
        return ⟨name, verbatim, tokenClass⟩
    | _ => none

def Literal.ofParts? : String → Option Json → Option Literal
  | "Null", none => some .null
  | "Null", some .null => some .null
  | "Bool", some value => (bool? value).map .bool
  | "Char", some value => (char? value).map .char
  | "String", some value => (string? value).map .string
  | "Int", some value => (int32? value).map .int
  | "UInt", some value => (uint32? value).map .uint
  | "Long", some value => (int64? value).map .long
  | "ULong", some value => (uint64? value).map .ulong
  | "Float", some value => (binary? value).map .float
  | "Double", some value => (binary? value).map .double
  | "Decimal", some value => (string? value).map .decimal
  | _, _ => none

def Literal.ofJson? (inner : Bool) : Json → Option Literal
  | .object entries =>
      match Row.withKey "type" entries, Row.withKey "value" entries with
      | [(_, type)], [] => (caseName? inner type).bind fun name => ofParts? name none
      | [(_, type)], [(_, value)] => (caseName? inner type).bind fun name => ofParts? name (some value)
      | _, _ => none
  | .array [type, value] => (caseName? inner type).bind fun name => ofParts? name (some value)
  | _ => none

def ArraySpecifier.ofJson? : Json → Option ArraySpecifier :=
  recordOf? <| record? ["dimensions"] fun
    | [dimensions] => (dimensions.required uint32?).map .mk
    | _ => none

def Comment.ofRow? (inner : Bool) : Row → Option Comment :=
  record? ["comment_type", "content"] fun
    | [kind, content] => do
        let kind ← kind.required (spelled? inner)
        let content ← content.required string?
        return ⟨kind, content⟩
    | _ => none

def Directive.ofRow? (inner : Bool) : Row → Option Directive :=
  record? ["directive_type", "argument"] fun
    | [kind, argument] => do
        let kind ← kind.required (spelled? inner)
        let argument ← argument.optional string?
        return ⟨kind, argument⟩
    | _ => none

namespace Readers

variable (readers : Readers)

def identifier : Json → Option Identifier := Identifier.ofJson? readers.inner

def modifiers : Json → Option (List Modifier) := listOf? (spelled? readers.inner)

def typeArguments (cell : Cell) : Option (List TypeRef) := cell.withDefault [] (listOf? readers.typeRef)

def arguments (cell : Cell) : Option (List Expression) :=
  cell.withDefault [] (listOf? readers.expression)

def block? : Row → Option Block :=
  record? ["statements"] fun
    | [statements] => (statements.withDefault [] (listOf? readers.statement)).map .mk
    | _ => none

def block : Json → Option Block := recordOf? readers.block?

def arrayInitializer? : Row → Option ArrayInitializer :=
  record? ["elements", "explicit_braces", "trailing_comma"] fun
    | [elements, explicitBraces, trailingComma] => do
        let elements ← readers.arguments elements
        let explicitBraces ← explicitBraces.withDefault false bool?
        let trailingComma ← trailingComma.withDefault false bool?
        return ⟨elements, explicitBraces, trailingComma⟩
    | _ => none

def arrayInitializer : Json → Option ArrayInitializer := recordOf? readers.arrayInitializer?

def attributeUse : Json → Option Attribute :=
  recordOf? <| record? ["attribute_type", "arguments", "explicit_parentheses"] fun
    | [attributeType, arguments, explicitParentheses] => do
        let attributeType ← attributeType.required readers.typeRef
        let arguments ← readers.arguments arguments
        let explicitParentheses ← explicitParentheses.withDefault false bool?
        return ⟨attributeType, arguments, explicitParentheses⟩
    | _ => none

def attributeSection? : Row → Option AttributeSection :=
  record? ["target", "attributes"] fun
    | [target, attributes] => do
        let target ← target.optional string?
        let attributes ← attributes.required (listOf? readers.attributeUse)
        return ⟨target, attributes⟩
    | _ => none

def attributeSection : Json → Option AttributeSection := recordOf? readers.attributeSection?

def attributeSections (cell : Cell) : Option (List AttributeSection) :=
  cell.withDefault [] (listOf? readers.attributeSection)

def parameter : Json → Option Parameter :=
  recordOf? <| record? ["attributes", "modifier", "parameter_type", "name", "default_expression"] fun
    | [attributes, modifier, parameterType, name, defaultExpression] => do
        let attributes ← readers.attributeSections attributes
        let modifier ← modifier.withDefault .plain (spelled? readers.inner)
        let parameterType ← parameterType.optional readers.typeRef
        let name ← name.optional readers.identifier
        let defaultExpression ← defaultExpression.optional readers.expression
        return ⟨attributes, modifier, parameterType, name, defaultExpression⟩
    | _ => none

def parameters (cell : Cell) : Option (List Parameter) := cell.withDefault [] (listOf? readers.parameter)

def variableInitializer : Json → Option VariableInitializer :=
  recordOf? <| record? ["name", "initializer"] fun
    | [name, initializer] => do
        let name ← name.required readers.identifier
        let initializer ← initializer.optional readers.expression
        return ⟨name, initializer⟩
    | _ => none

def variableDeclaration? : Row → Option VariableDeclaration :=
  record? ["modifiers", "variable_type", "variables"] fun
    | [modifiers, variableType, declarators] => do
        let modifiers ← modifiers.withDefault [] readers.modifiers
        let variableType ← variableType.required readers.typeRef
        let declarators ← declarators.required (listOf? readers.variableInitializer)
        return ⟨modifiers, variableType, declarators⟩
    | _ => none

def variableDeclaration : Json → Option VariableDeclaration := recordOf? readers.variableDeclaration?

def lambdaBody (value : Json) : Option LambdaBody :=
  match keyed? value with
  | some ("expression", value) => (readers.expression value).map .expression
  | some ("block", value) => (readers.block value).map .block
  | _ => none

def usingResource (value : Json) : Option UsingResource :=
  match keyed? value with
  | some ("declaration", value) => (readers.variableDeclaration value).map .declaration
  | some ("expression", value) => (readers.expression value).map .expression
  | _ => none

def queryOrdering : Json → Option QueryOrdering :=
  recordOf? <| record? ["expression", "direction"] fun
    | [expression, direction] => do
        let expression ← expression.required readers.expression
        let direction ← direction.withDefault .unspecified (spelled? readers.inner)
        return ⟨expression, direction⟩
    | _ => none

def caseLabel : Json → Option CaseLabel :=
  recordOf? <| record? ["expression"] fun
    | [expression] => (expression.optional readers.expression).map .mk
    | _ => none

def switchSection : Json → Option SwitchSection :=
  recordOf? <| record? ["case_labels", "statements"] fun
    | [labels, statements] => do
        let labels ← labels.required (listOf? readers.caseLabel)
        let statements ← statements.withDefault [] (listOf? readers.statement)
        return ⟨labels, statements⟩
    | _ => none

def catchClause : Json → Option CatchClause :=
  recordOf? <| record? ["catch_type", "variable_name", "condition", "body"] fun
    | [catchType, variableName, condition, body] => do
        let catchType ← catchType.optional readers.typeRef
        let variableName ← variableName.optional readers.identifier
        let condition ← condition.optional readers.expression
        let body ← body.required readers.block
        return ⟨catchType, variableName, condition, body⟩
    | _ => none

def query? : Row → Option Query :=
  record? ["clauses"] fun
    | [clauses] => (clauses.required (listOf? readers.queryClause)).map .mk
    | _ => none

def query : Json → Option Query := recordOf? readers.query?

def patternItem (value : Json) : Option PatternItem :=
  match keyed? value with
  | some ("pattern", value) => (readers.pattern value).map .pattern
  | some ("type", value) => (readers.typeRef value).map .type
  | some ("expression", value) => (readers.expression value).map .expression
  | some ("statement", value) => (readers.statement value).map .statement
  | some ("value", value) => (Literal.ofJson? readers.inner value).map .value
  | _ => none

end Readers

end CSharpLayout
