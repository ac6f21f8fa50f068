import CSharpLayout.Node.Basic
import CSharpLayout.Syntax.ReadingDeclarations
import CSharpLayout.Syntax.WritingDeclarations

/-! Fragments: the types of syntax that can be read, written and printed on their own. -/

namespace CSharpLayout

open Json

inductive FragmentType where
  | syntaxTree
  | namespaceDeclaration
  | usingDeclaration
  | usingAlias
  | externAlias
  | typeDeclaration
  | delegate
  | attributeSection
  | attributeUse
  | field
  | fixedField
  | fixedVariable
  | method
  | constructor
  | constructorInitializer
  | destructor
  | property
  | indexer
  | accessor
  | event
  | customEvent
  | operator
  | enumMember
  | parameter
  | typeParameter
  | constraint
  | variableInitializer
  | documentationReference
  | arraySpecifier
  | arrayInitializer
  | query
  | queryClause
  | queryOrdering
  | block
  | variableDeclaration
  | switchSection
  | caseLabel
  | catchClause
  | comment
  | directive
  | pattern
  | typeRef
  | expression
  | statement
  | namespaceMember
  | typeMember
  | usingResource
  | lambdaBody
  deriving DecidableEq, Repr

instance : Spelled FragmentType where
  all := [.syntaxTree, .namespaceDeclaration, .usingDeclaration, .usingAlias, .externAlias,
    .typeDeclaration, .delegate, .attributeSection, .attributeUse, .field, .fixedField,
    .fixedVariable, .method, .constructor, .constructorInitializer, .destructor, .property,
    .indexer, .accessor, .event, .customEvent, .operator, .enumMember, .parameter, .typeParameter,
    .constraint, .variableInitializer, .documentationReference, .arraySpecifier,
    .arrayInitializer, .query, .queryClause, .queryOrdering, .block, .variableDeclaration,
    .switchSection, .caseLabel, .catchClause, .comment, .directive, .pattern, .typeRef, .expression,
    .statement, .namespaceMember, .typeMember, .usingResource, .lambdaBody]
  spelling
    | .syntaxTree => "SyntaxTree"
    | .namespaceDeclaration => "NamespaceDeclaration"
    | .usingDeclaration => "UsingDeclaration"
    | .usingAlias => "UsingAliasDeclaration"
    | .externAlias => "ExternAliasDeclaration"
    | .typeDeclaration => "TypeDeclaration"
    | .delegate => "DelegateDeclaration"
    | .attributeSection => "AttributeSection"
    | .attributeUse => "Attribute"
    | .field => "FieldDeclaration"
    | .fixedField => "FixedFieldDeclaration"
    | .fixedVariable => "FixedVariableInitializer"
    | .method => "MethodDeclaration"
    | .constructor => "ConstructorDeclaration"
    | .constructorInitializer => "ConstructorInitializer"
    | .destructor => "DestructorDeclaration"
    | .property => "PropertyDeclaration"
    | .indexer => "IndexerDeclaration"
    | .accessor => "Accessor"
    | .event => "EventDeclaration"
    | .customEvent => "CustomEventDeclaration"
    | .operator => "OperatorDeclaration"
    | .enumMember => "EnumMemberDeclaration"
    | .parameter => "ParameterDeclaration"
    | .typeParameter => "TypeParameterDeclaration"
    | .constraint => "Constraint"
    | .variableInitializer => "VariableInitializer"
    | .documentationReference => "DocumentationReference"
    | .arraySpecifier => "ArraySpecifier"
    | .arrayInitializer => "ArrayInitializerExpression"
    | .query => "QueryExpression"
    | .queryClause => "QueryClause"
    | .queryOrdering => "QueryOrdering"
    | .block => "BlockStatement"
    | .variableDeclaration => "VariableDeclarationStatement"
    | .switchSection => "SwitchSection"
    | .caseLabel => "CaseLabel"
    | .catchClause => "CatchClause"
    | .comment => "Comment"
    | .directive => "PreprocessorDirective"
    | .pattern => "Pattern"
    | .typeRef => "AstType"
    | .expression => "Expression"
    | .statement => "Statement"
    | .namespaceMember => "NamespaceMember"
    | .typeMember => "TypeMember"
    | .usingResource => "UsingResource"
    | .lambdaBody => "LambdaBody"

namespace FragmentType

def Carrier : FragmentType → Type
  | .syntaxTree => SyntaxTree
  | .namespaceDeclaration => NamespaceDeclaration
  | .usingDeclaration => UsingDeclaration
  | .usingAlias => UsingAlias
  | .externAlias => ExternAlias
  | .typeDeclaration => TypeDeclaration
  | .delegate => DelegateDeclaration
  | .attributeSection => AttributeSection
  | .attributeUse => Attribute
  | .field => FieldDeclaration
  | .fixedField => FixedFieldDeclaration
  | .fixedVariable => FixedVariable
  | .method => MethodDeclaration
  | .constructor => ConstructorDeclaration
  | .constructorInitializer => ConstructorInitializer
  | .destructor => DestructorDeclaration
  | .property => PropertyDeclaration
  | .indexer => IndexerDeclaration
  | .accessor => Accessor
  | .event => EventDeclaration
  | .customEvent => CustomEventDeclaration
  | .operator => OperatorDeclaration
  | .enumMember => EnumMember
  | .parameter => Parameter
  | .typeParameter => TypeParameter
  | .constraint => Constraint
  | .variableInitializer => VariableInitializer
  | .documentationReference => DocumentationReference
  | .arraySpecifier => ArraySpecifier
  | .arrayInitializer => ArrayInitializer
  | .query => Query
  | .queryClause => QueryClause
  | .queryOrdering => QueryOrdering
  | .block => Block
  | .variableDeclaration => VariableDeclaration
  | .switchSection => SwitchSection
  | .caseLabel => CaseLabel
  | .catchClause => CatchClause
  | .comment => Comment
  | .directive => Directive
  | .pattern => Pattern
  | .typeRef => TypeRef
  | .expression => Expression
  | .statement => Statement
  | .namespaceMember => NamespaceMember
  | .typeMember => TypeMember
  | .usingResource => UsingResource
  | .lambdaBody => LambdaBody

def readWith (readers : Readers) : (type : FragmentType) → Json → Option type.Carrier
  | .syntaxTree => recordOf? readers.syntaxTree
  | .namespaceDeclaration => recordOf? readers.namespaceDeclaration
  | .usingDeclaration => recordOf? readers.usingDeclaration
  | .usingAlias => recordOf? readers.usingAlias
  | .externAlias => recordOf? readers.externAlias
  | .typeDeclaration => recordOf? readers.typeDeclaration
  | .delegate => recordOf? readers.delegate
  | .attributeSection => readers.attributeSection
  | .attributeUse => readers.attributeUse
  | .field => recordOf? readers.field
  | .fixedField => recordOf? readers.fixedField
  | .fixedVariable => recordOf? readers.fixedVariable
  | .method => recordOf? readers.method
  | .constructor => recordOf? readers.constructor
  | .constructorInitializer => recordOf? readers.constructorInitializer
  | .destructor => recordOf? readers.destructor
  | .property => recordOf? readers.property
  | .indexer => recordOf? readers.indexer
  | .accessor => recordOf? readers.accessor
  | .event => recordOf? readers.event
  | .customEvent => recordOf? readers.customEvent
  | .operator => recordOf? readers.operator
  | .enumMember => recordOf? readers.enumMember
  | .parameter => readers.parameter
  | .typeParameter => recordOf? readers.typeParameter
  | .constraint => recordOf? readers.constraint
  | .variableInitializer => readers.variableInitializer
  | .documentationReference => recordOf? readers.documentationReference
  | .arraySpecifier => ArraySpecifier.ofJson?
  | .arrayInitializer => readers.arrayInitializer
  | .query => readers.query
  | .queryClause => readers.queryClause
  | .queryOrdering => readers.queryOrdering
  | .block => readers.block
  | .variableDeclaration => readers.variableDeclaration
  | .switchSection => readers.switchSection
  | .caseLabel => readers.caseLabel
  | .catchClause => readers.catchClause
  | .comment => recordOf? (Comment.ofRow? false)
  | .directive => recordOf? (Directive.ofRow? false)
  | .pattern => readers.pattern
  | .typeRef => readers.typeRef
  | .expression => readers.expression
  | .statement => readers.statement
  | .namespaceMember => readers.namespaceMember
  | .typeMember => readers.typeMember
  | .usingResource => readers.usingResource
  | .lambdaBody => readers.lambdaBody

def read? (type : FragmentType) (value : Json) : Option type.Carrier :=
  type.readWith (Readers.upTo false value.depth) value

def write : (type : FragmentType) → type.Carrier → Json
  | .syntaxTree => SyntaxTree.toJson
  | .namespaceDeclaration => fun declaration => .object (NamespaceDeclaration.entries declaration)
  | .usingDeclaration => fun declaration => .object (UsingDeclaration.entries declaration)
  | .usingAlias => fun declaration => .object (UsingAlias.entries declaration)
  | .externAlias => fun declaration => .object (ExternAlias.entries declaration)
  | .typeDeclaration => fun declaration => .object (TypeDeclaration.entries declaration)
  | .delegate => fun declaration => .object (DelegateDeclaration.entries declaration)
  | .attributeSection => AttributeSection.toJson
  | .attributeUse => Attribute.toJson
  | .field => fun declaration => .object (FieldDeclaration.entries declaration)
  | .fixedField => fun declaration => .object (FixedFieldDeclaration.entries declaration)
  | .fixedVariable => FixedVariable.toJson
  | .method => fun declaration => .object (MethodDeclaration.entries declaration)
  | .constructor => fun declaration => .object (ConstructorDeclaration.entries declaration)
  | .constructorInitializer => ConstructorInitializer.toJson
  | .destructor => fun declaration => .object (DestructorDeclaration.entries declaration)
  | .property => fun declaration => .object (PropertyDeclaration.entries declaration)
  | .indexer => fun declaration => .object (IndexerDeclaration.entries declaration)
  | .accessor => Accessor.toJson
  | .event => fun declaration => .object (EventDeclaration.entries declaration)
  | .customEvent => fun declaration => .object (CustomEventDeclaration.entries declaration)
  | .operator => fun declaration => .object (OperatorDeclaration.entries declaration)
  | .enumMember => fun declaration => .object (EnumMember.entries declaration)
  | .parameter => Parameter.toJson
  | .typeParameter => TypeParameter.toJson
  | .constraint => Constraint.toJson
  | .variableInitializer => VariableInitializer.toJson
  | .documentationReference => DocumentationReference.toJson
  | .arraySpecifier => ArraySpecifier.toJson
  | .arrayInitializer => ArrayInitializer.toJson
  | .query => Query.toJson
  | .queryClause => QueryClause.toJson
  | .queryOrdering => QueryOrdering.toJson
  | .block => Block.toJson
  | .variableDeclaration => VariableDeclaration.toJson
  | .switchSection => SwitchSection.toJson
  | .caseLabel => CaseLabel.toJson
  | .catchClause => CatchClause.toJson
  | .comment => Comment.toJson
  | .directive => Directive.toJson
  | .pattern => Pattern.toJson
  | .typeRef => TypeRef.toJson
  | .expression => Expression.toJson
  | .statement => Statement.toJson
  | .namespaceMember => NamespaceMember.toJson
  | .typeMember => TypeMember.toJson
  | .usingResource => UsingResource.toJson
  | .lambdaBody => LambdaBody.toJson

def node : (type : FragmentType) → type.Carrier → Node
  | .syntaxTree => Node.syntaxTree
  | .namespaceDeclaration => Node.namespaceDeclaration
  | .usingDeclaration => Node.usingDeclaration
  | .usingAlias => Node.usingAlias
  | .externAlias => Node.externAlias
  | .typeDeclaration => Node.typeDeclaration
  | .delegate => Node.delegate
  | .attributeSection => Node.attributeSection
  | .attributeUse => Node.attributeUse
  | .field => Node.field
  | .fixedField => Node.fixedField
  | .fixedVariable => Node.fixedVariable
  | .method => Node.method
  | .constructor => Node.constructor
  | .constructorInitializer => Node.constructorInitializer
  | .destructor => Node.destructor
  | .property => Node.property
  | .indexer => Node.indexer
  | .accessor => Node.accessor
  | .event => Node.event
  | .customEvent => Node.customEvent
  | .operator => Node.operator
  | .enumMember => Node.enumMember
  | .parameter => Node.parameter
  | .typeParameter => Node.typeParameter
  | .constraint => Node.constraint
  | .variableInitializer => Node.variableInitializer
  | .documentationReference => Node.documentationReference
  | .arraySpecifier => Node.arraySpecifier
  | .arrayInitializer => Node.arrayInitializer
  | .query => Node.query
  | .queryClause => Node.queryClause
  | .queryOrdering => Node.queryOrdering
  | .block => Node.block
  | .variableDeclaration => Node.variableDeclaration
  | .switchSection => Node.switchSection
  | .caseLabel => Node.caseLabel
  | .catchClause => Node.catchClause
  | .comment => Node.comment
  | .directive => Node.directive
  | .pattern => Node.pattern
  | .typeRef => Node.ofType
  | .expression => Node.ofExpression
  | .statement => Node.ofStatement
  | .namespaceMember => Node.ofNamespaceMember
  | .typeMember => Node.ofTypeMember
  | .usingResource => Node.ofUsingResource
  | .lambdaBody => Node.ofLambdaBody

/-- The node of a type, expression or statement in the view of its family, which differs from its own
view for blocks, declarations, initializers, queries, trivia and placeholders. -/
def familyNode : (type : FragmentType) → type.Carrier → Node
  | .typeRef => Node.type
  | .expression => Node.expression
  | .statement => Node.statement
  | other => other.node

end FragmentType

def SyntaxTree.ofJson? (value : Json) : Option SyntaxTree := FragmentType.syntaxTree.read? value

end CSharpLayout
