import CSharpLayout.Syntax.Literal
import CSharpLayout.Syntax.Name
import CSharpLayout.Syntax.Operator
import CSharpLayout.Syntax.Trivia

/-! Type references, expressions, statements and placeholders, which contain one another. Facts of layout
that only the source knows, such as a trailing comma or explicit braces, are fields of their own. -/

namespace CSharpLayout

inductive UndocumentedOperation where
  | argList
  | argListAccess
  | makeRef
  | refType
  | refValue
  deriving DecidableEq, Repr

def UndocumentedOperation.keyword : UndocumentedOperation → String
  | .argList => "__arglist"
  | .argListAccess => "__arglist"
  | .makeRef => "__makeref"
  | .refType => "__reftype"
  | .refValue => "__refvalue"

instance : Spelled UndocumentedOperation where
  all := [.argList, .argListAccess, .makeRef, .refType, .refValue]
  spelling
    | .argList => "ArgList"
    | .argListAccess => "ArgListAccess"
    | .makeRef => "MakeRef"
    | .refType => "RefType"
    | .refValue => "RefValue"

inductive PassingDirection where
  | out
  | ref
  deriving DecidableEq, Repr

instance : Spelled PassingDirection where
  all := [.out, .ref]
  spelling
    | .out => "Out"
    | .ref => "Ref"

inductive SortDirection where
  | unspecified
  | ascending
  | descending
  deriving DecidableEq, Repr

instance : Spelled SortDirection where
  all := [.unspecified, .ascending, .descending]
  spelling
    | .unspecified => "None"
    | .ascending => "Ascending"
    | .descending => "Descending"

inductive ParameterModifier where
  | plain
  | ref
  | out
  | params
  | this
  deriving DecidableEq, Repr

instance : Spelled ParameterModifier where
  all := [.plain, .ref, .out, .params, .this]
  spelling
    | .plain => "none"
    | .ref => "ref"
    | .out => "out"
    | .params => "params"
    | .this => "this"

structure ArraySpecifier where
  dimensions : UInt32
  deriving DecidableEq, Repr

set_option maxHeartbeats 400000 in
mutual

inductive TypeRef where
  | primitive (keyword : String)
  | simple (identifier : Identifier) (typeArguments : List TypeRef)
  | member (target : TypeRef) (isDoubleColon : Bool) (memberName : Identifier)
      (typeArguments : List TypeRef)
  | composed (baseType : TypeRef) (nullable : Bool) (pointerRank : UInt32)
      (arraySpecifiers : List ArraySpecifier)
  | pattern (pattern : Pattern)

/-- A placeholder of a template. It may stand for a type, an expression or a statement. -/
inductive Pattern where
  | any (groupName : Option String)
  | backreference (groupName : String)
  | identifierBackreference (groupName : String)
  | choice (alternatives : List PatternItem)
  | named (groupName : Option String) (child : PatternItem)
  | repeated (min : UInt32) (max : Option UInt32) (child : PatternItem)
  | optional (child : PatternItem)

inductive PatternItem where
  | pattern (pattern : Pattern)
  | type (type : TypeRef)
  | expression (expression : Expression)
  | statement (statement : Statement)
  | value (value : Literal)

inductive Expression where
  | anonymousMethod (isAsync hasParameterList : Bool) (parameters : List Parameter) (body : Block)
  | undocumented (operation : UndocumentedOperation) (arguments : List Expression)
  | arrayCreate (elementType : TypeRef) (arguments : List Expression)
      (additionalSpecifiers : List ArraySpecifier) (initializer : Option ArrayInitializer)
  | arrayInitializer (initializer : ArrayInitializer)
  | asType (expression : Expression) (targetType : TypeRef)
  | assignment (left : Expression) (operator : AssignmentOperator) (right : Expression)
  | baseReference
  | binary (left : Expression) (operator : BinaryOperator) (right : Expression)
  | cast (targetType : TypeRef) (expression : Expression)
  | checked (expression : Expression)
  | conditional (condition whenTrue whenFalse : Expression)
  | defaultValue (targetType : TypeRef)
  | direction (direction : PassingDirection) (expression : Expression)
  | identifier (identifier : Identifier) (typeArguments : List TypeRef)
  | indexer (target : Expression) (arguments : List Expression)
  | invocation (target : Expression) (arguments : List Expression)
  | isType (expression : Expression) (targetType : TypeRef)
  | lambda (isAsync : Bool) (parameters : List Parameter) (body : LambdaBody)
  | memberReference (target : Expression) (memberName : Identifier) (typeArguments : List TypeRef)
  | namedArgument (name : Identifier) (expression : Expression)
  | named (name : Identifier) (expression : Expression)
  | nullReference
  | objectCreate (createdType : TypeRef) (arguments : List Expression) (explicitParentheses : Bool)
      (initializer : Option ArrayInitializer)
  | anonymousTypeCreate (initializers : List Expression)
  | parenthesized (expression : Expression)
  | pointerReference (target : Expression) (memberName : Identifier) (typeArguments : List TypeRef)
  | literal (value : Literal) (raw : Option String)
  | sizeOf (targetType : TypeRef)
  | stackAlloc (elementType : TypeRef) (count : Expression)
  | thisReference
  | typeOf (targetType : TypeRef)
  | typeReference (targetType : TypeRef)
  | unary (operator : UnaryOperator) (expression : Expression)
  | unchecked (expression : Expression)
  | query (query : Query)
  | pattern (pattern : Pattern)

inductive LambdaBody where
  | expression (expression : Expression)
  | block (block : Block)

structure ArrayInitializer where
  elements : List Expression
  explicitBraces : Bool
  trailingComma : Bool

structure Query where
  clauses : List QueryClause

inductive QueryClause where
  | continuation (preceding : Query) (identifier : Identifier)
  | fromIn (variableType : Option TypeRef) (identifier : Identifier) (expression : Expression)
  | letBe (identifier : Identifier) (expression : Expression)
  | whereTrue (condition : Expression)
  | join (variableType : Option TypeRef) (joinIdentifier : Identifier)
      (inExpression onExpression equalsExpression : Expression) (intoIdentifier : Option Identifier)
  | orderBy (orderings : List QueryOrdering)
  | select (expression : Expression)
  | groupBy (projection key : Expression)

structure QueryOrdering where
  expression : Expression
  direction : SortDirection

structure Attribute where
  attributeType : TypeRef
  arguments : List Expression
  explicitParentheses : Bool

structure AttributeSection where
  target : Option String
  attributes : List Attribute

structure Parameter where
  attributes : List AttributeSection
  modifier : ParameterModifier
  parameterType : Option TypeRef
  name : Option Identifier
  defaultExpression : Option Expression

structure VariableInitializer where
  name : Identifier
  initializer : Option Expression

structure VariableDeclaration where
  modifiers : List Modifier
  variableType : TypeRef
  declarators : List VariableInitializer

structure Block where
  statements : List Statement

inductive Statement where
  | block (block : Block)
  | breaks
  | checked (body : Block)
  | continues
  | doWhile (body : Statement) (condition : Expression)
  | empty
  | expression (expression : Expression)
  | fixed (variableType : TypeRef) (declarators : List VariableInitializer) (body : Statement)
  | foreach (variableType : TypeRef) (variableName : Identifier) (inExpression : Expression)
      (body : Statement)
  | forLoop (initializers : List Statement) (condition : Option Expression)
      (iterators : List Statement) (body : Statement)
  | goto (label : Identifier)
  | gotoCase (label : Expression)
  | gotoDefault
  | ifElse (condition : Expression) (whenTrue : Statement) (whenFalse : Option Statement)
  | label (label : Identifier)
  | lock (expression : Expression) (body : Statement)
  | returns (expression : Option Expression)
  | switch (expression : Expression) (sections : List SwitchSection)
  | throws (expression : Option Expression)
  | tryCatch (tryBlock : Block) (catchClauses : List CatchClause) (finallyBlock : Option Block)
  | unchecked (body : Block)
  | unsafeBlock (body : Block)
  | usingResource (resource : UsingResource) (body : Statement)
  | localVariables (declaration : VariableDeclaration)
  | whileLoop (condition : Expression) (body : Statement)
  | yieldBreak
  | yieldReturn (expression : Expression)
  | comment (comment : Comment)
  | directive (directive : Directive)
  | pattern (pattern : Pattern)

inductive UsingResource where
  | declaration (declaration : VariableDeclaration)
  | expression (expression : Expression)

structure SwitchSection where
  labels : List CaseLabel
  statements : List Statement

structure CaseLabel where
  expression : Option Expression

structure CatchClause where
  catchType : Option TypeRef
  variableName : Option Identifier
  condition : Option Expression
  body : Block

end

end CSharpLayout
