import CSharpLayout.Syntax.Tree

/-! Declarations: files, namespaces, types and their members. -/

namespace CSharpLayout

inductive TypeKind where
  | classType
  | structType
  | interfaceType
  | enumType
  deriving DecidableEq, Repr

instance : Spelled TypeKind where
  all := [.classType, .structType, .interfaceType, .enumType]
  spelling
    | .classType => "class"
    | .structType => "struct"
    | .interfaceType => "interface"
    | .enumType => "enum"

inductive InitializerTarget where
  | base
  | this
  deriving DecidableEq, Repr

instance : Spelled InitializerTarget where
  all := [.base, .this]
  spelling
    | .base => "base"
    | .this => "this"

inductive AccessorKind where
  | get
  | set
  | add
  | remove
  deriving DecidableEq, Repr

def AccessorKind.keyword : AccessorKind → String
  | .get => "get"
  | .set => "set"
  | .add => "add"
  | .remove => "remove"

instance : Spelled AccessorKind where
  all := [.get, .set, .add, .remove]
  spelling := AccessorKind.keyword

inductive Variance where
  | invariant
  | covariant
  | contravariant
  deriving DecidableEq, Repr

instance : Spelled Variance where
  all := [.invariant, .covariant, .contravariant]
  spelling
    | .invariant => "invariant"
    | .covariant => "covariant"
    | .contravariant => "contravariant"

inductive SymbolKind where
  | typeDefinition
  | field
  | property
  | indexer
  | event
  | method
  | constructor
  | destructor
  | operator
  deriving DecidableEq, Repr

instance : Spelled SymbolKind where
  all := [.typeDefinition, .field, .property, .indexer, .event, .method, .constructor, .destructor,
    .operator]
  spelling
    | .typeDefinition => "TypeDefinition"
    | .field => "Field"
    | .property => "Property"
    | .indexer => "Indexer"
    | .event => "Event"
    | .method => "Method"
    | .constructor => "Constructor"
    | .destructor => "Destructor"
    | .operator => "Operator"

structure UsingDeclaration where
  target : TypeRef

structure UsingAlias where
  name : Identifier
  target : TypeRef

structure ExternAlias where
  name : Identifier
  deriving DecidableEq, Repr

structure TypeParameter where
  attributes : List AttributeSection
  variance : Variance
  name : Identifier

structure Constraint where
  typeParameter : Identifier
  baseTypes : List TypeRef

structure DelegateDeclaration where
  attributes : List AttributeSection
  modifiers : List Modifier
  returnType : TypeRef
  name : Identifier
  typeParameters : List TypeParameter
  parameters : List Parameter
  constraints : List Constraint

structure FieldDeclaration where
  attributes : List AttributeSection
  modifiers : List Modifier
  returnType : TypeRef
  declarators : List VariableInitializer

structure FixedVariable where
  name : Identifier
  count : Option Expression

structure FixedFieldDeclaration where
  attributes : List AttributeSection
  modifiers : List Modifier
  returnType : TypeRef
  declarators : List FixedVariable

structure MethodDeclaration where
  attributes : List AttributeSection
  modifiers : List Modifier
  returnType : TypeRef
  explicitInterface : Option TypeRef
  name : Identifier
  typeParameters : List TypeParameter
  parameters : List Parameter
  constraints : List Constraint
  body : Option Block

structure ConstructorInitializer where
  target : InitializerTarget
  arguments : List Expression

structure ConstructorDeclaration where
  attributes : List AttributeSection
  modifiers : List Modifier
  name : Identifier
  parameters : List Parameter
  initializer : Option ConstructorInitializer
  body : Option Block

structure DestructorDeclaration where
  attributes : List AttributeSection
  modifiers : List Modifier
  name : Identifier
  body : Option Block

structure Accessor where
  attributes : List AttributeSection
  modifiers : List Modifier
  kind : AccessorKind
  body : Option Block

structure PropertyDeclaration where
  attributes : List AttributeSection
  modifiers : List Modifier
  returnType : TypeRef
  explicitInterface : Option TypeRef
  name : Identifier
  accessors : List Accessor

structure IndexerDeclaration where
  attributes : List AttributeSection
  modifiers : List Modifier
  returnType : TypeRef
  explicitInterface : Option TypeRef
  parameters : List Parameter
  accessors : List Accessor

structure EventDeclaration where
  attributes : List AttributeSection
  modifiers : List Modifier
  returnType : TypeRef
  declarators : List VariableInitializer

structure CustomEventDeclaration where
  attributes : List AttributeSection
  modifiers : List Modifier
  returnType : TypeRef
  explicitInterface : Option TypeRef
  name : Identifier
  accessors : List Accessor

structure OperatorDeclaration where
  attributes : List AttributeSection
  modifiers : List Modifier
  operator : OverloadableOperator
  returnType : TypeRef
  parameters : List Parameter
  body : Option Block

structure EnumMember where
  attributes : List AttributeSection
  modifiers : List Modifier
  name : Identifier
  initializer : Option Expression

structure DocumentationReference where
  symbolKind : SymbolKind
  declaringType : Option TypeRef
  memberName : Option Identifier
  operator : Option OverloadableOperator
  conversionReturnType : Option TypeRef
  typeArguments : List TypeRef
  hasParameterList : Bool
  parameters : List Parameter

mutual

structure TypeDeclaration where
  attributes : List AttributeSection
  modifiers : List Modifier
  kind : TypeKind
  name : Identifier
  typeParameters : List TypeParameter
  baseTypes : List TypeRef
  constraints : List Constraint
  members : List TypeMember
  trailingComma : Bool
  trailingSemicolon : Bool

inductive TypeMember where
  | field (declaration : FieldDeclaration)
  | fixedField (declaration : FixedFieldDeclaration)
  | method (declaration : MethodDeclaration)
  | constructor (declaration : ConstructorDeclaration)
  | destructor (declaration : DestructorDeclaration)
  | property (declaration : PropertyDeclaration)
  | indexer (declaration : IndexerDeclaration)
  | event (declaration : EventDeclaration)
  | customEvent (declaration : CustomEventDeclaration)
  | operator (declaration : OperatorDeclaration)
  | enumMember (declaration : EnumMember)
  | type (declaration : TypeDeclaration)
  | delegate (declaration : DelegateDeclaration)
  | comment (comment : Comment)
  | directive (directive : Directive)

end

mutual

structure NamespaceDeclaration where
  name : TypeRef
  members : List NamespaceMember
  trailingSemicolon : Bool

inductive NamespaceMember where
  | namespaceDeclaration (declaration : NamespaceDeclaration)
  | usingDeclaration (declaration : UsingDeclaration)
  | usingAlias (declaration : UsingAlias)
  | externAlias (declaration : ExternAlias)
  | type (declaration : TypeDeclaration)
  | delegate (declaration : DelegateDeclaration)
  | attributeSection (attributes : AttributeSection)
  | comment (comment : Comment)
  | directive (directive : Directive)

end

structure SyntaxTree where
  members : List NamespaceMember

end CSharpLayout
