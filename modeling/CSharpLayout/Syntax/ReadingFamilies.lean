import CSharpLayout.Syntax.Reading

/-! The tagged families of a tree: which fields each tag has. -/

namespace CSharpLayout

open Json

def TypeRef.tags : List String := ["Primitive", "Simple", "Member", "Composed", "Pattern"]

def Pattern.tags : List String :=
  ["Any", "Backreference", "IdentifierBackreference", "Choice", "Named", "Repeat", "Optional"]

def QueryClause.tags : List String :=
  ["Continuation", "From", "Let", "Where", "Join", "OrderBy", "Select", "Group"]

def Expression.tags : List String :=
  ["AnonymousMethod", "Undocumented", "ArrayCreate", "ArrayInitializer", "As", "Assignment",
    "BaseReference", "Binary", "Cast", "Checked", "Conditional", "DefaultValue", "Direction",
    "Identifier", "Indexer", "Invocation", "Is", "Lambda", "MemberReference", "NamedArgument",
    "Named", "NullReference", "ObjectCreate", "AnonymousTypeCreate", "Parenthesized",
    "PointerReference", "Primitive", "SizeOf", "StackAlloc", "ThisReference", "TypeOf",
    "TypeReference", "Unary", "Unchecked", "Query", "Pattern"]

def Statement.tags : List String :=
  ["Block", "Break", "Checked", "Continue", "DoWhile", "Empty", "Expression", "Fixed", "Foreach",
    "For", "Goto", "GotoCase", "GotoDefault", "IfElse", "Label", "Lock", "Return", "Switch", "Throw",
    "TryCatch", "Unchecked", "Unsafe", "Using", "VariableDeclaration", "While", "YieldBreak",
    "YieldReturn", "Comment", "Directive", "Pattern"]

namespace Readers

variable (readers : Readers)

def patternFields : String → Row → Option Pattern
  | "Any" => record? ["group_name"] fun
      | [groupName] => (groupName.optional string?).map .any
      | _ => none
  | "Backreference" => record? ["group_name"] fun
      | [groupName] => (groupName.required string?).map .backreference
      | _ => none
  | "IdentifierBackreference" => record? ["group_name"] fun
      | [groupName] => (groupName.required string?).map .identifierBackreference
      | _ => none
  | "Choice" => record? ["alternatives"] fun
      | [alternatives] => (alternatives.required (listOf? readers.patternItem)).map .choice
      | _ => none
  | "Named" => record? ["group_name", "child"] fun
      | [groupName, child] => do
          let groupName ← groupName.optional string?
          let child ← child.required readers.patternItem
          return .named groupName child
      | _ => none
  | "Repeat" => record? ["min", "max", "child"] fun
      | [min, max, child] => do
          let min ← min.withDefault 0 uint32?
          let max ← max.optional uint32?
          let child ← child.required readers.patternItem
          return .repeated min max child
      | _ => none
  | "Optional" => record? ["child"] fun
      | [child] => (child.required readers.patternItem).map .optional
      | _ => none
  | _ => fun _ => none

def patternRow : Row → Option Pattern
  | .named entries =>
      (tagged? true "pattern" Pattern.tags (.object entries)).bind fun (tag, row) =>
        readers.patternFields tag row
  | .listed items =>
      (tagged? true "pattern" Pattern.tags (.array items)).bind fun (tag, row) =>
        readers.patternFields tag row

def typeFields : String → Row → Option TypeRef
  | "Primitive" => record? ["keyword"] fun
      | [keyword] => (keyword.required string?).map .primitive
      | _ => none
  | "Simple" => record? ["identifier", "type_arguments"] fun
      | [identifier, typeArguments] => do
          let identifier ← identifier.required readers.identifier
          let typeArguments ← readers.typeArguments typeArguments
          return .simple identifier typeArguments
      | _ => none
  | "Member" => record? ["target", "is_double_colon", "member_name", "type_arguments"] fun
      | [target, isDoubleColon, memberName, typeArguments] => do
          let target ← target.required readers.typeRef
          let isDoubleColon ← isDoubleColon.withDefault false bool?
          let memberName ← memberName.required readers.identifier
          let typeArguments ← readers.typeArguments typeArguments
          return .member target isDoubleColon memberName typeArguments
      | _ => none
  | "Composed" =>
      record? ["base_type", "has_nullable_specifier", "pointer_rank", "array_specifiers"] fun
        | [baseType, nullable, pointerRank, arraySpecifiers] => do
            let baseType ← baseType.required readers.typeRef
            let nullable ← nullable.withDefault false bool?
            let pointerRank ← pointerRank.withDefault 0 uint32?
            let arraySpecifiers ← arraySpecifiers.withDefault [] (listOf? ArraySpecifier.ofJson?)
            return .composed baseType nullable pointerRank arraySpecifiers
        | _ => none
  | "Pattern" => fun row => (readers.patternRow row).map .pattern
  | _ => fun _ => none

def oneExpression {α : Type} (name : String) (build : Expression → α) : Row → Option α :=
  record? [name] fun
    | [expression] => (expression.required readers.expression).map build
    | _ => none

def oneType {α : Type} (build : TypeRef → α) : Row → Option α :=
  record? ["target_type"] fun
    | [targetType] => (targetType.required readers.typeRef).map build
    | _ => none

def expressionAndType {α : Type} (build : Expression → TypeRef → α) : Row → Option α :=
  record? ["expression", "target_type"] fun
    | [expression, targetType] => do
        let expression ← expression.required readers.expression
        let targetType ← targetType.required readers.typeRef
        return build expression targetType
    | _ => none

def nameAndExpression {α : Type} (build : Identifier → Expression → α) (field : String) :
    Row → Option α :=
  record? [field, "expression"] fun
    | [name, expression] => do
        let name ← name.required readers.identifier
        let expression ← expression.required readers.expression
        return build name expression
    | _ => none

def memberAccess {α : Type} (build : Expression → Identifier → List TypeRef → α) : Row → Option α :=
  record? ["target", "member_name", "type_arguments"] fun
    | [target, memberName, typeArguments] => do
        let target ← target.required readers.expression
        let memberName ← memberName.required readers.identifier
        let typeArguments ← readers.typeArguments typeArguments
        return build target memberName typeArguments
    | _ => none

def operands {α β : Type} [Spelled β] (build : Expression → β → Expression → α) : Row → Option α :=
  record? ["left", "operator", "right"] fun
    | [left, operator, right] => do
        let left ← left.required readers.expression
        let operator ← operator.required (spelled? readers.inner)
        let right ← right.required readers.expression
        return build left operator right
    | _ => none

def expressionFields : String → Row → Option Expression
  | "AnonymousMethod" => record? ["is_async", "has_parameter_list", "parameters", "body"] fun
      | [isAsync, hasParameterList, parameters, body] => do
          let isAsync ← isAsync.withDefault false bool?
          let hasParameterList ← hasParameterList.withDefault false bool?
          let parameters ← readers.parameters parameters
          let body ← body.required readers.block
          return .anonymousMethod isAsync hasParameterList parameters body
      | _ => none
  | "Undocumented" => record? ["operation", "arguments"] fun
      | [operation, arguments] => do
          let operation ← operation.required (spelled? readers.inner)
          let arguments ← readers.arguments arguments
          return .undocumented operation arguments
      | _ => none
  | "ArrayCreate" => record? ["element_type", "arguments", "additional_specifiers", "initializer"] fun
      | [elementType, arguments, additionalSpecifiers, initializer] => do
          let elementType ← elementType.required readers.typeRef
          let arguments ← readers.arguments arguments
          let additionalSpecifiers ←
            additionalSpecifiers.withDefault [] (listOf? ArraySpecifier.ofJson?)
          let initializer ← initializer.optional readers.arrayInitializer
          return .arrayCreate elementType arguments additionalSpecifiers initializer
      | _ => none
  | "ArrayInitializer" => fun row => (readers.arrayInitializer? row).map .arrayInitializer
  | "As" => readers.expressionAndType .asType
  | "Assignment" => readers.operands .assignment
  | "BaseReference" => unit? .baseReference
  | "Binary" => readers.operands .binary
  | "Cast" => record? ["target_type", "expression"] fun
      | [targetType, expression] => do
          let targetType ← targetType.required readers.typeRef
          let expression ← expression.required readers.expression
          return .cast targetType expression
      | _ => none
  | "Checked" => readers.oneExpression "expression" .checked
  | "Conditional" => record? ["condition", "true_expression", "false_expression"] fun
      | [condition, whenTrue, whenFalse] => do
          let condition ← condition.required readers.expression
          let whenTrue ← whenTrue.required readers.expression
          let whenFalse ← whenFalse.required readers.expression
          return .conditional condition whenTrue whenFalse
      | _ => none
  | "DefaultValue" => readers.oneType .defaultValue
  | "Direction" => record? ["direction", "expression"] fun
      | [direction, expression] => do
          let direction ← direction.required (spelled? readers.inner)
          let expression ← expression.required readers.expression
          return .direction direction expression
      | _ => none
  | "Identifier" => record? ["identifier", "type_arguments"] fun
      | [identifier, typeArguments] => do
          let identifier ← identifier.required readers.identifier
          let typeArguments ← readers.typeArguments typeArguments
          return .identifier identifier typeArguments
      | _ => none
  | "Indexer" => record? ["target", "arguments"] fun
      | [target, arguments] => do
          let target ← target.required readers.expression
          let arguments ← arguments.required (listOf? readers.expression)
          return .indexer target arguments
      | _ => none
  | "Invocation" => record? ["target", "arguments"] fun
      | [target, arguments] => do
          let target ← target.required readers.expression
          let arguments ← readers.arguments arguments
          return .invocation target arguments
      | _ => none
  | "Is" => readers.expressionAndType .isType
  | "Lambda" => record? ["is_async", "parameters", "body"] fun
      | [isAsync, parameters, body] => do
          let isAsync ← isAsync.withDefault false bool?
          let parameters ← readers.parameters parameters
          let body ← body.required readers.lambdaBody
          return .lambda isAsync parameters body
      | _ => none
  | "MemberReference" => readers.memberAccess .memberReference
  | "NamedArgument" => readers.nameAndExpression .namedArgument "name"
  | "Named" => readers.nameAndExpression .named "name"
  | "NullReference" => unit? .nullReference
  | "ObjectCreate" => record? ["created_type", "arguments", "explicit_parentheses", "initializer"] fun
      | [createdType, arguments, explicitParentheses, initializer] => do
          let createdType ← createdType.required readers.typeRef
          let arguments ← readers.arguments arguments
          let explicitParentheses ← explicitParentheses.withDefault false bool?
          let initializer ← initializer.optional readers.arrayInitializer
          return .objectCreate createdType arguments explicitParentheses initializer
      | _ => none
  | "AnonymousTypeCreate" => record? ["initializers"] fun
      | [initializers] =>
          (initializers.required (listOf? readers.expression)).map .anonymousTypeCreate
      | _ => none
  | "Parenthesized" => readers.oneExpression "expression" .parenthesized
  | "PointerReference" => readers.memberAccess .pointerReference
  | "Primitive" => record? ["value", "raw"] fun
      | [value, raw] => do
          let value ← value.required (Literal.ofJson? readers.inner)
          let raw ← raw.optional string?
          return .literal value raw
      | _ => none
  | "SizeOf" => readers.oneType .sizeOf
  | "StackAlloc" => record? ["element_type", "count_expression"] fun
      | [elementType, count] => do
          let elementType ← elementType.required readers.typeRef
          let count ← count.required readers.expression
          return .stackAlloc elementType count
      | _ => none
  | "ThisReference" => unit? .thisReference
  | "TypeOf" => readers.oneType .typeOf
  | "TypeReference" => readers.oneType .typeReference
  | "Unary" => record? ["operator", "expression"] fun
      | [operator, expression] => do
          let operator ← operator.required (spelled? readers.inner)
          let expression ← expression.required readers.expression
          return .unary operator expression
      | _ => none
  | "Unchecked" => readers.oneExpression "expression" .unchecked
  | "Query" => fun row => (readers.query? row).map .query
  | "Pattern" => fun row => (readers.patternRow row).map .pattern
  | _ => fun _ => none

def queryClauseFields : String → Row → Option QueryClause
  | "Continuation" => record? ["preceding_query", "identifier"] fun
      | [preceding, identifier] => do
          let preceding ← preceding.required readers.query
          let identifier ← identifier.required readers.identifier
          return .continuation preceding identifier
      | _ => none
  | "From" => record? ["variable_type", "identifier", "expression"] fun
      | [variableType, identifier, expression] => do
          let variableType ← variableType.optional readers.typeRef
          let identifier ← identifier.required readers.identifier
          let expression ← expression.required readers.expression
          return .fromIn variableType identifier expression
      | _ => none
  | "Let" => readers.nameAndExpression .letBe "identifier"
  | "Where" => readers.oneExpression "condition" .whereTrue
  | "Join" =>
      record? ["variable_type", "join_identifier", "in_expression", "on_expression",
          "equals_expression", "into_identifier"] fun
        | [variableType, joinIdentifier, inExpression, onExpression, equalsExpression,
            intoIdentifier] => do
            let variableType ← variableType.optional readers.typeRef
            let joinIdentifier ← joinIdentifier.required readers.identifier
            let inExpression ← inExpression.required readers.expression
            let onExpression ← onExpression.required readers.expression
            let equalsExpression ← equalsExpression.required readers.expression
            let intoIdentifier ← intoIdentifier.optional readers.identifier
            return .join variableType joinIdentifier inExpression onExpression equalsExpression
              intoIdentifier
        | _ => none
  | "OrderBy" => record? ["orderings"] fun
      | [orderings] => (orderings.required (listOf? readers.queryOrdering)).map .orderBy
      | _ => none
  | "Select" => readers.oneExpression "expression" .select
  | "Group" => record? ["projection", "key"] fun
      | [projection, key] => do
          let projection ← projection.required readers.expression
          let key ← key.required readers.expression
          return .groupBy projection key
      | _ => none
  | _ => fun _ => none

def oneBlock (build : Block → Statement) : Row → Option Statement :=
  record? ["body"] fun
    | [body] => (body.required readers.block).map build
    | _ => none

def oneLabel (build : Identifier → Statement) : Row → Option Statement :=
  record? ["label"] fun
    | [label] => (label.required readers.identifier).map build
    | _ => none

def optionalExpression (build : Option Expression → Statement) : Row → Option Statement :=
  record? ["expression"] fun
    | [expression] => (expression.optional readers.expression).map build
    | _ => none

def expressionAndBody (field : String) (build : Expression → Statement → Statement) :
    Row → Option Statement :=
  record? [field, "embedded_statement"] fun
    | [expression, body] => do
        let expression ← expression.required readers.expression
        let body ← body.required readers.statement
        return build expression body
    | _ => none

def statementFields : String → Row → Option Statement
  | "Block" => fun row => (readers.block? row).map .block
  | "Break" => unit? .breaks
  | "Checked" => readers.oneBlock .checked
  | "Continue" => unit? .continues
  | "DoWhile" => record? ["embedded_statement", "condition"] fun
      | [body, condition] => do
          let body ← body.required readers.statement
          let condition ← condition.required readers.expression
          return .doWhile body condition
      | _ => none
  | "Empty" => unit? .empty
  | "Expression" => readers.oneExpression "expression" .expression
  | "Fixed" => record? ["variable_type", "variables", "embedded_statement"] fun
      | [variableType, declarators, body] => do
          let variableType ← variableType.required readers.typeRef
          let declarators ← declarators.required (listOf? readers.variableInitializer)
          let body ← body.required readers.statement
          return .fixed variableType declarators body
      | _ => none
  | "Foreach" => record? ["variable_type", "variable_name", "in_expression", "embedded_statement"] fun
      | [variableType, variableName, inExpression, body] => do
          let variableType ← variableType.required readers.typeRef
          let variableName ← variableName.required readers.identifier
          let inExpression ← inExpression.required readers.expression
          let body ← body.required readers.statement
          return .foreach variableType variableName inExpression body
      | _ => none
  | "For" => record? ["initializers", "condition", "iterators", "embedded_statement"] fun
      | [initializers, condition, iterators, body] => do
          let initializers ← initializers.withDefault [] (listOf? readers.statement)
          let condition ← condition.optional readers.expression
          let iterators ← iterators.withDefault [] (listOf? readers.statement)
          let body ← body.required readers.statement
          return .forLoop initializers condition iterators body
      | _ => none
  | "Goto" => readers.oneLabel .goto
  | "GotoCase" => readers.oneExpression "label_expression" .gotoCase
  | "GotoDefault" => unit? .gotoDefault
  | "IfElse" => record? ["condition", "true_statement", "false_statement"] fun
      | [condition, whenTrue, whenFalse] => do
          let condition ← condition.required readers.expression
          let whenTrue ← whenTrue.required readers.statement
          let whenFalse ← whenFalse.optional readers.statement
          return .ifElse condition whenTrue whenFalse
      | _ => none
  | "Label" => readers.oneLabel .label
  | "Lock" => readers.expressionAndBody "expression" .lock
  | "Return" => readers.optionalExpression .returns
  | "Switch" => record? ["expression", "sections"] fun
      | [expression, sections] => do
          let expression ← expression.required readers.expression
          let sections ← sections.withDefault [] (listOf? readers.switchSection)
          return .switch expression sections
      | _ => none
  | "Throw" => readers.optionalExpression .throws
  | "TryCatch" => record? ["try_block", "catch_clauses", "finally_block"] fun
      | [tryBlock, catchClauses, finallyBlock] => do
          let tryBlock ← tryBlock.required readers.block
          let catchClauses ← catchClauses.withDefault [] (listOf? readers.catchClause)
          let finallyBlock ← finallyBlock.optional readers.block
          return .tryCatch tryBlock catchClauses finallyBlock
      | _ => none
  | "Unchecked" => readers.oneBlock .unchecked
  | "Unsafe" => readers.oneBlock .unsafeBlock
  | "Using" => record? ["resource", "embedded_statement"] fun
      | [resource, body] => do
          let resource ← resource.required readers.usingResource
          let body ← body.required readers.statement
          return .usingResource resource body
      | _ => none
  | "VariableDeclaration" => fun row => (readers.variableDeclaration? row).map .localVariables
  | "While" => readers.expressionAndBody "condition" .whileLoop
  | "YieldBreak" => unit? .yieldBreak
  | "YieldReturn" => readers.oneExpression "expression" .yieldReturn
  | "Comment" => fun row => (Comment.ofRow? readers.inner row).map .comment
  | "Directive" => fun row => (Directive.ofRow? readers.inner row).map .directive
  | "Pattern" => fun row => (readers.patternRow row).map .pattern
  | _ => fun _ => none

end Readers

end CSharpLayout
