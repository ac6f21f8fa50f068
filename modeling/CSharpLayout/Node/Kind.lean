import CSharpLayout.Spelling

/-! The kinds of nodes, as error paths and position maps name them. -/

namespace CSharpLayout

inductive NodeKind where
  | syntaxTree
  | namespaceDeclaration
  | usingDeclaration
  | usingAlias
  | externAlias
  | typeDeclaration
  | delegate
  | attributeSection
  | attributeUse
  | field
  | fixedField
  | fixedVariableInitializer
  | method
  | constructor
  | constructorInitializer
  | destructor
  | property
  | indexer
  | accessor
  | event
  | customEvent
  | operator
  | enumMember
  | parameter
  | typeParameter
  | constraint
  | variableInitializer
  | documentationReference
  | primitiveType
  | simpleType
  | memberType
  | composedType
  | arraySpecifier
  | anonymousMethod
  | undocumented
  | arrayCreate
  | arrayInitializer
  | asType
  | assignment
  | baseReference
  | binary
  | cast
  | checked
  | conditional
  | defaultValue
  | direction
  | identifier
  | indexerExpression
  | invocation
  | isType
  | lambda
  | memberReference
  | namedArgument
  | named
  | nullReference
  | objectCreate
  | anonymousTypeCreate
  | parenthesized
  | pointerReference
  | literal
  | sizeOf
  | stackAlloc
  | thisReference
  | typeOf
  | typeReference
  | unary
  | unchecked
  | query
  | queryContinuation
  | queryFrom
  | queryLet
  | queryWhere
  | queryJoin
  | queryOrder
  | queryOrdering
  | querySelect
  | queryGroup
  | block
  | breakStatement
  | checkedStatement
  | continueStatement
  | doWhile
  | empty
  | expressionStatement
  | fixed
  | foreach
  | forLoop
  | goto
  | gotoCase
  | gotoDefault
  | ifElse
  | label
  | lockStatement
  | returnStatement
  | switch
  | switchSection
  | caseLabel
  | throwStatement
  | tryCatch
  | catchClause
  | uncheckedStatement
  | unsafeStatement
  | usingStatement
  | variableDeclaration
  | whileLoop
  | yieldBreak
  | yieldReturn
  | comment
  | preprocessorDirective
  | pattern
  deriving DecidableEq, Repr

def NodeKind.name : NodeKind → String
  | .syntaxTree => "SyntaxTree"
  | .namespaceDeclaration => "Namespace"
  | .usingDeclaration => "Using"
  | .usingAlias => "UsingAlias"
  | .externAlias => "ExternAlias"
  | .typeDeclaration => "TypeDeclaration"
  | .delegate => "Delegate"
  | .attributeSection => "AttributeSection"
  | .attributeUse => "Attribute"
  | .field => "Field"
  | .fixedField => "FixedField"
  | .fixedVariableInitializer => "FixedVariableInitializer"
  | .method => "Method"
  | .constructor => "Constructor"
  | .constructorInitializer => "ConstructorInitializer"
  | .destructor => "Destructor"
  | .property => "Property"
  | .indexer => "Indexer"
  | .accessor => "Accessor"
  | .event => "Event"
  | .customEvent => "CustomEvent"
  | .operator => "Operator"
  | .enumMember => "EnumMember"
  | .parameter => "Parameter"
  | .typeParameter => "TypeParameter"
  | .constraint => "Constraint"
  | .variableInitializer => "VariableInitializer"
  | .documentationReference => "DocumentationReference"
  | .primitiveType => "PrimitiveType"
  | .simpleType => "SimpleType"
  | .memberType => "MemberType"
  | .composedType => "ComposedType"
  | .arraySpecifier => "ArraySpecifier"
  | .anonymousMethod => "AnonymousMethod"
  | .undocumented => "Undocumented"
  | .arrayCreate => "ArrayCreate"
  | .arrayInitializer => "ArrayInitializer"
  | .asType => "As"
  | .assignment => "Assignment"
  | .baseReference => "BaseReference"
  | .binary => "Binary"
  | .cast => "Cast"
  | .checked => "Checked"
  | .conditional => "Conditional"
  | .defaultValue => "DefaultValue"
  | .direction => "Direction"
  | .identifier => "Identifier"
  | .indexerExpression => "IndexerExpression"
  | .invocation => "Invocation"
  | .isType => "Is"
  | .lambda => "Lambda"
  | .memberReference => "MemberReference"
  | .namedArgument => "NamedArgument"
  | .named => "Named"
  | .nullReference => "NullReference"
  | .objectCreate => "ObjectCreate"
  | .anonymousTypeCreate => "AnonymousTypeCreate"
  | .parenthesized => "Parenthesized"
  | .pointerReference => "PointerReference"
  | .literal => "Primitive"
  | .sizeOf => "SizeOf"
  | .stackAlloc => "StackAlloc"
  | .thisReference => "ThisReference"
  | .typeOf => "TypeOf"
  | .typeReference => "TypeReference"
  | .unary => "Unary"
  | .unchecked => "Unchecked"
  | .query => "Query"
  | .queryContinuation => "QueryContinuation"
  | .queryFrom => "QueryFrom"
  | .queryLet => "QueryLet"
  | .queryWhere => "QueryWhere"
  | .queryJoin => "QueryJoin"
  | .queryOrder => "QueryOrder"
  | .queryOrdering => "QueryOrdering"
  | .querySelect => "QuerySelect"
  | .queryGroup => "QueryGroup"
  | .block => "Block"
  | .breakStatement => "Break"
  | .checkedStatement => "CheckedStatement"
  | .continueStatement => "Continue"
  | .doWhile => "DoWhile"
  | .empty => "Empty"
  | .expressionStatement => "ExpressionStatement"
  | .fixed => "Fixed"
  | .foreach => "Foreach"
  | .forLoop => "For"
  | .goto => "Goto"
  | .gotoCase => "GotoCase"
  | .gotoDefault => "GotoDefault"
  | .ifElse => "IfElse"
  | .label => "Label"
  | .lockStatement => "Lock"
  | .returnStatement => "Return"
  | .switch => "Switch"
  | .switchSection => "SwitchSection"
  | .caseLabel => "CaseLabel"
  | .throwStatement => "Throw"
  | .tryCatch => "TryCatch"
  | .catchClause => "CatchClause"
  | .uncheckedStatement => "UncheckedStatement"
  | .unsafeStatement => "Unsafe"
  | .usingStatement => "UsingStatement"
  | .variableDeclaration => "VariableDeclaration"
  | .whileLoop => "While"
  | .yieldBreak => "YieldBreak"
  | .yieldReturn => "YieldReturn"
  | .comment => "Comment"
  | .preprocessorDirective => "PreprocessorDirective"
  | .pattern => "Pattern"

instance : Spelled NodeKind where
  all := [.syntaxTree, .namespaceDeclaration, .usingDeclaration, .usingAlias, .externAlias,
    .typeDeclaration, .delegate, .attributeSection, .attributeUse, .field, .fixedField,
    .fixedVariableInitializer, .method, .constructor, .constructorInitializer, .destructor,
    .property, .indexer, .accessor, .event, .customEvent, .operator, .enumMember, .parameter,
    .typeParameter, .constraint, .variableInitializer, .documentationReference, .primitiveType,
    .simpleType, .memberType, .composedType, .arraySpecifier, .anonymousMethod, .undocumented,
    .arrayCreate, .arrayInitializer, .asType, .assignment, .baseReference, .binary, .cast,
    .checked, .conditional, .defaultValue, .direction, .identifier, .indexerExpression,
    .invocation, .isType, .lambda, .memberReference, .namedArgument, .named, .nullReference,
    .objectCreate, .anonymousTypeCreate, .parenthesized, .pointerReference, .literal, .sizeOf,
    .stackAlloc, .thisReference, .typeOf, .typeReference, .unary, .unchecked, .query,
    .queryContinuation, .queryFrom, .queryLet, .queryWhere, .queryJoin, .queryOrder,
    .queryOrdering, .querySelect, .queryGroup, .block, .breakStatement, .checkedStatement,
    .continueStatement, .doWhile, .empty, .expressionStatement, .fixed, .foreach, .forLoop, .goto,
    .gotoCase, .gotoDefault, .ifElse, .label, .lockStatement, .returnStatement, .switch,
    .switchSection, .caseLabel, .throwStatement, .tryCatch, .catchClause, .uncheckedStatement,
    .unsafeStatement, .usingStatement, .variableDeclaration, .whileLoop, .yieldBreak,
    .yieldReturn, .comment, .preprocessorDirective, .pattern]
  spelling := NodeKind.name

end CSharpLayout
