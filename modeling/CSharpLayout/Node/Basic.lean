import CSharpLayout.Node.Kind
import CSharpLayout.Syntax.Declaration

/-! Nodes: one view of every part of a tree that is printed as a unit. A block, a variable declaration, an
initializer, a query and a placeholder each have a view of their own, whatever family they are found in;
`ofStatement`, `ofExpression` and `ofType` choose it. -/

namespace CSharpLayout

inductive Node where
  | syntaxTree (tree : SyntaxTree)
  | namespaceDeclaration (declaration : NamespaceDeclaration)
  | usingDeclaration (declaration : UsingDeclaration)
  | usingAlias (declaration : UsingAlias)
  | externAlias (declaration : ExternAlias)
  | typeDeclaration (declaration : TypeDeclaration)
  | delegate (declaration : DelegateDeclaration)
  | attributeSection (attributes : AttributeSection)
  | attributeUse (use : Attribute)
  | field (declaration : FieldDeclaration)
  | fixedField (declaration : FixedFieldDeclaration)
  | fixedVariable (buffer : FixedVariable)
  | method (declaration : MethodDeclaration)
  | constructor (declaration : ConstructorDeclaration)
  | constructorInitializer (initializer : ConstructorInitializer)
  | destructor (declaration : DestructorDeclaration)
  | property (declaration : PropertyDeclaration)
  | indexer (declaration : IndexerDeclaration)
  | accessor (accessor : Accessor)
  | event (declaration : EventDeclaration)
  | customEvent (declaration : CustomEventDeclaration)
  | operator (declaration : OperatorDeclaration)
  | enumMember (member : EnumMember)
  | parameter (parameter : Parameter)
  | typeParameter (parameter : TypeParameter)
  | constraint (constraint : Constraint)
  | variableInitializer (initializer : VariableInitializer)
  | documentationReference (reference : DocumentationReference)
  | type (type : TypeRef)
  | arraySpecifier (specifier : ArraySpecifier)
  | expression (expression : Expression)
  | arrayInitializer (initializer : ArrayInitializer)
  | query (query : Query)
  | queryClause (clause : QueryClause)
  | queryOrdering (ordering : QueryOrdering)
  | statement (statement : Statement)
  | block (block : Block)
  | variableDeclaration (declaration : VariableDeclaration)
  | switchSection (switchSection : SwitchSection)
  | caseLabel (label : CaseLabel)
  | catchClause (clause : CatchClause)
  | comment (comment : Comment)
  | directive (directive : Directive)
  | pattern (pattern : Pattern)

namespace Node

def ofType : TypeRef → Node
  | .pattern placeholder => .pattern placeholder
  | found => .type found

def ofExpression : Expression → Node
  | .arrayInitializer initializer => .arrayInitializer initializer
  | .query found => .query found
  | .pattern placeholder => .pattern placeholder
  | found => .expression found

def ofStatement : Statement → Node
  | .block found => .block found
  | .localVariables declaration => .variableDeclaration declaration
  | .comment found => .comment found
  | .directive found => .directive found
  | .pattern placeholder => .pattern placeholder
  | found => .statement found

def ofNamespaceMember : NamespaceMember → Node
  | .namespaceDeclaration declaration => .namespaceDeclaration declaration
  | .usingDeclaration declaration => .usingDeclaration declaration
  | .usingAlias declaration => .usingAlias declaration
  | .externAlias declaration => .externAlias declaration
  | .type declaration => .typeDeclaration declaration
  | .delegate declaration => .delegate declaration
  | .attributeSection attributes => .attributeSection attributes
  | .comment found => .comment found
  | .directive found => .directive found

def ofTypeMember : TypeMember → Node
  | .field declaration => .field declaration
  | .fixedField declaration => .fixedField declaration
  | .method declaration => .method declaration
  | .constructor declaration => .constructor declaration
  | .destructor declaration => .destructor declaration
  | .property declaration => .property declaration
  | .indexer declaration => .indexer declaration
  | .event declaration => .event declaration
  | .customEvent declaration => .customEvent declaration
  | .operator declaration => .operator declaration
  | .enumMember member => .enumMember member
  | .type declaration => .typeDeclaration declaration
  | .delegate declaration => .delegate declaration
  | .comment found => .comment found
  | .directive found => .directive found

def ofUsingResource : UsingResource → Node
  | .declaration declaration => .variableDeclaration declaration
  | .expression found => ofExpression found

def ofLambdaBody : LambdaBody → Node
  | .expression found => ofExpression found
  | .block found => .block found

def kindOfType : TypeRef → NodeKind
  | .primitive _ => .primitiveType
  | .simple _ _ => .simpleType
  | .member _ _ _ _ => .memberType
  | .composed _ _ _ _ => .composedType
  | .pattern _ => .pattern

def kindOfExpression : Expression → NodeKind
  | .anonymousMethod _ _ _ _ => .anonymousMethod
  | .undocumented _ _ => .undocumented
  | .arrayCreate _ _ _ _ => .arrayCreate
  | .arrayInitializer _ => .arrayInitializer
  | .asType _ _ => .asType
  | .assignment _ _ _ => .assignment
  | .baseReference => .baseReference
  | .binary _ _ _ => .binary
  | .cast _ _ => .cast
  | .checked _ => .checked
  | .conditional _ _ _ => .conditional
  | .defaultValue _ => .defaultValue
  | .direction _ _ => .direction
  | .identifier _ _ => .identifier
  | .indexer _ _ => .indexerExpression
  | .invocation _ _ => .invocation
  | .isType _ _ => .isType
  | .lambda _ _ _ => .lambda
  | .memberReference _ _ _ => .memberReference
  | .namedArgument _ _ => .namedArgument
  | .named _ _ => .named
  | .nullReference => .nullReference
  | .objectCreate _ _ _ _ => .objectCreate
  | .anonymousTypeCreate _ => .anonymousTypeCreate
  | .parenthesized _ => .parenthesized
  | .pointerReference _ _ _ => .pointerReference
  | .literal _ _ => .literal
  | .sizeOf _ => .sizeOf
  | .stackAlloc _ _ => .stackAlloc
  | .thisReference => .thisReference
  | .typeOf _ => .typeOf
  | .typeReference _ => .typeReference
  | .unary _ _ => .unary
  | .unchecked _ => .unchecked
  | .query _ => .query
  | .pattern _ => .pattern

def kindOfClause : QueryClause → NodeKind
  | .continuation _ _ => .queryContinuation
  | .fromIn _ _ _ => .queryFrom
  | .letBe _ _ => .queryLet
  | .whereTrue _ => .queryWhere
  | .join _ _ _ _ _ _ => .queryJoin
  | .orderBy _ => .queryOrder
  | .select _ => .querySelect
  | .groupBy _ _ => .queryGroup

def kindOfStatement : Statement → NodeKind
  | .block _ => .block
  | .breaks => .breakStatement
  | .checked _ => .checkedStatement
  | .continues => .continueStatement
  | .doWhile _ _ => .doWhile
  | .empty => .empty
  | .expression _ => .expressionStatement
  | .fixed _ _ _ => .fixed
  | .foreach _ _ _ _ => .foreach
  | .forLoop _ _ _ _ => .forLoop
  | .goto _ => .goto
  | .gotoCase _ => .gotoCase
  | .gotoDefault => .gotoDefault
  | .ifElse _ _ _ => .ifElse
  | .label _ => .label
  | .lock _ _ => .lockStatement
  | .returns _ => .returnStatement
  | .switch _ _ => .switch
  | .throws _ => .throwStatement
  | .tryCatch _ _ _ => .tryCatch
  | .unchecked _ => .uncheckedStatement
  | .unsafeBlock _ => .unsafeStatement
  | .usingResource _ _ => .usingStatement
  | .localVariables _ => .variableDeclaration
  | .whileLoop _ _ => .whileLoop
  | .yieldBreak => .yieldBreak
  | .yieldReturn _ => .yieldReturn
  | .comment _ => .comment
  | .directive _ => .preprocessorDirective
  | .pattern _ => .pattern

def kind : Node → NodeKind
  | .syntaxTree _ => .syntaxTree
  | .namespaceDeclaration _ => .namespaceDeclaration
  | .usingDeclaration _ => .usingDeclaration
  | .usingAlias _ => .usingAlias
  | .externAlias _ => .externAlias
  | .typeDeclaration _ => .typeDeclaration
  | .delegate _ => .delegate
  | .attributeSection _ => .attributeSection
  | .attributeUse _ => .attributeUse
  | .field _ => .field
  | .fixedField _ => .fixedField
  | .fixedVariable _ => .fixedVariableInitializer
  | .method _ => .method
  | .constructor _ => .constructor
  | .constructorInitializer _ => .constructorInitializer
  | .destructor _ => .destructor
  | .property _ => .property
  | .indexer _ => .indexer
  | .accessor _ => .accessor
  | .event _ => .event
  | .customEvent _ => .customEvent
  | .operator _ => .operator
  | .enumMember _ => .enumMember
  | .parameter _ => .parameter
  | .typeParameter _ => .typeParameter
  | .constraint _ => .constraint
  | .variableInitializer _ => .variableInitializer
  | .documentationReference _ => .documentationReference
  | .type found => kindOfType found
  | .arraySpecifier _ => .arraySpecifier
  | .expression found => kindOfExpression found
  | .arrayInitializer _ => .arrayInitializer
  | .query _ => .query
  | .queryClause clause => kindOfClause clause
  | .queryOrdering _ => .queryOrdering
  | .statement found => kindOfStatement found
  | .block _ => .block
  | .variableDeclaration _ => .variableDeclaration
  | .switchSection _ => .switchSection
  | .caseLabel _ => .caseLabel
  | .catchClause _ => .catchClause
  | .comment _ => .comment
  | .directive _ => .preprocessorDirective
  | .pattern _ => .pattern

def isExpression : Node → Bool
  | .expression _ => true
  | .arrayInitializer _ => true
  | .query _ => true
  | _ => false

def statements? : Node → Option (List Statement)
  | .block found => some found.statements
  | .switchSection found => some found.statements
  | _ => none

end Node

end CSharpLayout
