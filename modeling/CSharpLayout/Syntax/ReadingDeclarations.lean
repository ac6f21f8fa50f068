import CSharpLayout.Syntax.ReadingFamilies

/-! Declarations from JSON values, and the table of readers itself. A table for values of some depth is built
from the table for values that are nested one level less. -/

namespace CSharpLayout

open Json

def TypeMember.tags : List String :=
  ["Field", "FixedField", "Method", "Constructor", "Destructor", "Property", "Indexer", "Event",
    "CustomEvent", "Operator", "EnumMember", "Type", "Delegate", "Comment", "Directive"]

def NamespaceMember.tags : List String :=
  ["Namespace", "Using", "UsingAlias", "ExternAlias", "Type", "Delegate", "AttributeSection",
    "Comment", "Directive"]

namespace Readers

variable (readers : Readers)

def usingDeclaration : Row → Option UsingDeclaration :=
  record? ["import"] fun
    | [target] => (target.required readers.typeRef).map .mk
    | _ => none

def usingAlias : Row → Option UsingAlias :=
  record? ["alias", "import"] fun
    | [name, target] => do
        let name ← name.required readers.identifier
        let target ← target.required readers.typeRef
        return ⟨name, target⟩
    | _ => none

def externAlias : Row → Option ExternAlias :=
  record? ["name"] fun
    | [name] => (name.required readers.identifier).map .mk
    | _ => none

def typeParameter : Row → Option TypeParameter :=
  record? ["attributes", "variance", "name"] fun
    | [attributes, variance, name] => do
        let attributes ← readers.attributeSections attributes
        let variance ← variance.withDefault .invariant (spelled? readers.inner)
        let name ← name.required readers.identifier
        return ⟨attributes, variance, name⟩
    | _ => none

def typeParameters (cell : Cell) : Option (List TypeParameter) :=
  cell.withDefault [] (listOf? (recordOf? readers.typeParameter))

def constraint : Row → Option Constraint :=
  record? ["type_parameter", "base_types"] fun
    | [typeParameter, baseTypes] => do
        let typeParameter ← typeParameter.required readers.identifier
        let baseTypes ← baseTypes.required (listOf? readers.typeRef)
        return ⟨typeParameter, baseTypes⟩
    | _ => none

def constraints (cell : Cell) : Option (List Constraint) :=
  cell.withDefault [] (listOf? (recordOf? readers.constraint))

def modifierList (cell : Cell) : Option (List Modifier) := cell.withDefault [] readers.modifiers

def delegate : Row → Option DelegateDeclaration :=
  record? ["attributes", "modifiers", "return_type", "name", "type_parameters", "parameters",
      "constraints"] fun
    | [attributes, modifiers, returnType, name, typeParameters, parameters, constraints] => do
        let attributes ← readers.attributeSections attributes
        let modifiers ← readers.modifierList modifiers
        let returnType ← returnType.required readers.typeRef
        let name ← name.required readers.identifier
        let typeParameters ← readers.typeParameters typeParameters
        let parameters ← readers.parameters parameters
        let constraints ← readers.constraints constraints
        return ⟨attributes, modifiers, returnType, name, typeParameters, parameters, constraints⟩
    | _ => none

def field : Row → Option FieldDeclaration :=
  record? ["attributes", "modifiers", "return_type", "variables"] fun
    | [attributes, modifiers, returnType, declarators] => do
        let attributes ← readers.attributeSections attributes
        let modifiers ← readers.modifierList modifiers
        let returnType ← returnType.required readers.typeRef
        let declarators ← declarators.required (listOf? readers.variableInitializer)
        return ⟨attributes, modifiers, returnType, declarators⟩
    | _ => none

def fixedVariable : Row → Option FixedVariable :=
  record? ["name", "count_expression"] fun
    | [name, count] => do
        let name ← name.required readers.identifier
        let count ← count.optional readers.expression
        return ⟨name, count⟩
    | _ => none

def fixedField : Row → Option FixedFieldDeclaration :=
  record? ["attributes", "modifiers", "return_type", "variables"] fun
    | [attributes, modifiers, returnType, declarators] => do
        let attributes ← readers.attributeSections attributes
        let modifiers ← readers.modifierList modifiers
        let returnType ← returnType.required readers.typeRef
        let declarators ← declarators.required (listOf? (recordOf? readers.fixedVariable))
        return ⟨attributes, modifiers, returnType, declarators⟩
    | _ => none

def method : Row → Option MethodDeclaration :=
  record? ["attributes", "modifiers", "return_type", "private_implementation_type", "name",
      "type_parameters", "parameters", "constraints", "body"] fun
    | [attributes, modifiers, returnType, explicitInterface, name, typeParameters, parameters,
        constraints, body] => do
        let attributes ← readers.attributeSections attributes
        let modifiers ← readers.modifierList modifiers
        let returnType ← returnType.required readers.typeRef
        let explicitInterface ← explicitInterface.optional readers.typeRef
        let name ← name.required readers.identifier
        let typeParameters ← readers.typeParameters typeParameters
        let parameters ← readers.parameters parameters
        let constraints ← readers.constraints constraints
        let body ← body.optional readers.block
        return ⟨attributes, modifiers, returnType, explicitInterface, name, typeParameters,
          parameters, constraints, body⟩
    | _ => none

def constructorInitializer : Row → Option ConstructorInitializer :=
  record? ["initializer_type", "arguments"] fun
    | [target, arguments] => do
        let target ← target.required (spelled? readers.inner)
        let arguments ← readers.arguments arguments
        return ⟨target, arguments⟩
    | _ => none

def constructor : Row → Option ConstructorDeclaration :=
  record? ["attributes", "modifiers", "name", "parameters", "initializer", "body"] fun
    | [attributes, modifiers, name, parameters, initializer, body] => do
        let attributes ← readers.attributeSections attributes
        let modifiers ← readers.modifierList modifiers
        let name ← name.required readers.identifier
        let parameters ← readers.parameters parameters
        let initializer ← initializer.optional (recordOf? readers.constructorInitializer)
        let body ← body.optional readers.block
        return ⟨attributes, modifiers, name, parameters, initializer, body⟩
    | _ => none

def destructor : Row → Option DestructorDeclaration :=
  record? ["attributes", "modifiers", "name", "body"] fun
    | [attributes, modifiers, name, body] => do
        let attributes ← readers.attributeSections attributes
        let modifiers ← readers.modifierList modifiers
        let name ← name.required readers.identifier
        let body ← body.optional readers.block
        return ⟨attributes, modifiers, name, body⟩
    | _ => none

def accessor : Row → Option Accessor :=
  record? ["attributes", "modifiers", "kind", "body"] fun
    | [attributes, modifiers, kind, body] => do
        let attributes ← readers.attributeSections attributes
        let modifiers ← readers.modifierList modifiers
        let kind ← kind.required (spelled? readers.inner)
        let body ← body.optional readers.block
        return ⟨attributes, modifiers, kind, body⟩
    | _ => none

def accessors (cell : Cell) : Option (List Accessor) :=
  cell.required (listOf? (recordOf? readers.accessor))

def property : Row → Option PropertyDeclaration :=
  record? ["attributes", "modifiers", "return_type", "private_implementation_type", "name",
      "accessors"] fun
    | [attributes, modifiers, returnType, explicitInterface, name, accessors] => do
        let attributes ← readers.attributeSections attributes
        let modifiers ← readers.modifierList modifiers
        let returnType ← returnType.required readers.typeRef
        let explicitInterface ← explicitInterface.optional readers.typeRef
        let name ← name.required readers.identifier
        let accessors ← readers.accessors accessors
        return ⟨attributes, modifiers, returnType, explicitInterface, name, accessors⟩
    | _ => none

def indexer : Row → Option IndexerDeclaration :=
  record? ["attributes", "modifiers", "return_type", "private_implementation_type", "parameters",
      "accessors"] fun
    | [attributes, modifiers, returnType, explicitInterface, parameters, accessors] => do
        let attributes ← readers.attributeSections attributes
        let modifiers ← readers.modifierList modifiers
        let returnType ← returnType.required readers.typeRef
        let explicitInterface ← explicitInterface.optional readers.typeRef
        let parameters ← parameters.required (listOf? readers.parameter)
        let accessors ← readers.accessors accessors
        return ⟨attributes, modifiers, returnType, explicitInterface, parameters, accessors⟩
    | _ => none

def event : Row → Option EventDeclaration :=
  record? ["attributes", "modifiers", "return_type", "variables"] fun
    | [attributes, modifiers, returnType, declarators] => do
        let attributes ← readers.attributeSections attributes
        let modifiers ← readers.modifierList modifiers
        let returnType ← returnType.required readers.typeRef
        let declarators ← declarators.required (listOf? readers.variableInitializer)
        return ⟨attributes, modifiers, returnType, declarators⟩
    | _ => none

def customEvent : Row → Option CustomEventDeclaration :=
  record? ["attributes", "modifiers", "return_type", "private_implementation_type", "name",
      "accessors"] fun
    | [attributes, modifiers, returnType, explicitInterface, name, accessors] => do
        let attributes ← readers.attributeSections attributes
        let modifiers ← readers.modifierList modifiers
        let returnType ← returnType.required readers.typeRef
        let explicitInterface ← explicitInterface.optional readers.typeRef
        let name ← name.required readers.identifier
        let accessors ← readers.accessors accessors
        return ⟨attributes, modifiers, returnType, explicitInterface, name, accessors⟩
    | _ => none

def operator : Row → Option OperatorDeclaration :=
  record? ["attributes", "modifiers", "operator", "return_type", "parameters", "body"] fun
    | [attributes, modifiers, operator, returnType, parameters, body] => do
        let attributes ← readers.attributeSections attributes
        let modifiers ← readers.modifierList modifiers
        let operator ← operator.required (spelled? readers.inner)
        let returnType ← returnType.required readers.typeRef
        let parameters ← parameters.required (listOf? readers.parameter)
        let body ← body.optional readers.block
        return ⟨attributes, modifiers, operator, returnType, parameters, body⟩
    | _ => none

def enumMember : Row → Option EnumMember :=
  record? ["attributes", "modifiers", "name", "initializer"] fun
    | [attributes, modifiers, name, initializer] => do
        let attributes ← readers.attributeSections attributes
        let modifiers ← readers.modifierList modifiers
        let name ← name.required readers.identifier
        let initializer ← initializer.optional readers.expression
        return ⟨attributes, modifiers, name, initializer⟩
    | _ => none

def documentationReference : Row → Option DocumentationReference :=
  record? ["symbol_kind", "declaring_type", "member_name", "operator", "conversion_return_type",
      "type_arguments", "has_parameter_list", "parameters"] fun
    | [symbolKind, declaringType, memberName, operator, conversionReturnType, typeArguments,
        hasParameterList, parameters] => do
        let symbolKind ← symbolKind.required (spelled? readers.inner)
        let declaringType ← declaringType.optional readers.typeRef
        let memberName ← memberName.optional readers.identifier
        let operator ← operator.optional (spelled? readers.inner)
        let conversionReturnType ← conversionReturnType.optional readers.typeRef
        let typeArguments ← readers.typeArguments typeArguments
        let hasParameterList ← hasParameterList.withDefault false bool?
        let parameters ← readers.parameters parameters
        return ⟨symbolKind, declaringType, memberName, operator, conversionReturnType,
          typeArguments, hasParameterList, parameters⟩
    | _ => none

def typeDeclaration : Row → Option TypeDeclaration :=
  record? ["attributes", "modifiers", "class_type", "name", "type_parameters", "base_types",
      "constraints", "members", "trailing_comma", "trailing_semicolon"] fun
    | [attributes, modifiers, kind, name, typeParameters, baseTypes, constraints, members,
        trailingComma, trailingSemicolon] => do
        let attributes ← readers.attributeSections attributes
        let modifiers ← readers.modifierList modifiers
        let kind ← kind.required (spelled? readers.inner)
        let name ← name.required readers.identifier
        let typeParameters ← readers.typeParameters typeParameters
        let baseTypes ← readers.typeArguments baseTypes
        let constraints ← readers.constraints constraints
        let members ← members.withDefault [] (listOf? readers.typeMember)
        let trailingComma ← trailingComma.withDefault false bool?
        let trailingSemicolon ← trailingSemicolon.withDefault false bool?
        return ⟨attributes, modifiers, kind, name, typeParameters, baseTypes, constraints, members,
          trailingComma, trailingSemicolon⟩
    | _ => none

def namespaceDeclaration : Row → Option NamespaceDeclaration :=
  record? ["name", "members", "trailing_semicolon"] fun
    | [name, members, trailingSemicolon] => do
        let name ← name.required readers.typeRef
        let members ← members.withDefault [] (listOf? readers.namespaceMember)
        let trailingSemicolon ← trailingSemicolon.withDefault false bool?
        return ⟨name, members, trailingSemicolon⟩
    | _ => none

def syntaxTree : Row → Option SyntaxTree :=
  record? ["members"] fun
    | [members] => (members.withDefault [] (listOf? readers.namespaceMember)).map .mk
    | _ => none

def typeMemberFields : String → Row → Option TypeMember
  | "Field" => fun row => (readers.field row).map .field
  | "FixedField" => fun row => (readers.fixedField row).map .fixedField
  | "Method" => fun row => (readers.method row).map .method
  | "Constructor" => fun row => (readers.constructor row).map .constructor
  | "Destructor" => fun row => (readers.destructor row).map .destructor
  | "Property" => fun row => (readers.property row).map .property
  | "Indexer" => fun row => (readers.indexer row).map .indexer
  | "Event" => fun row => (readers.event row).map .event
  | "CustomEvent" => fun row => (readers.customEvent row).map .customEvent
  | "Operator" => fun row => (readers.operator row).map .operator
  | "EnumMember" => fun row => (readers.enumMember row).map .enumMember
  | "Type" => fun row => (readers.typeDeclaration row).map .type
  | "Delegate" => fun row => (readers.delegate row).map .delegate
  | "Comment" => fun row => (Comment.ofRow? readers.inner row).map .comment
  | "Directive" => fun row => (Directive.ofRow? readers.inner row).map .directive
  | _ => fun _ => none

def namespaceMemberFields : String → Row → Option NamespaceMember
  | "Namespace" => fun row => (readers.namespaceDeclaration row).map .namespaceDeclaration
  | "Using" => fun row => (readers.usingDeclaration row).map .usingDeclaration
  | "UsingAlias" => fun row => (readers.usingAlias row).map .usingAlias
  | "ExternAlias" => fun row => (readers.externAlias row).map .externAlias
  | "Type" => fun row => (readers.typeDeclaration row).map .type
  | "Delegate" => fun row => (readers.delegate row).map .delegate
  | "AttributeSection" => fun row => (readers.attributeSection? row).map .attributeSection
  | "Comment" => fun row => (Comment.ofRow? readers.inner row).map .comment
  | "Directive" => fun row => (Directive.ofRow? readers.inner row).map .directive
  | _ => fun _ => none

def refusing (inner : Bool) : Readers :=
  ⟨inner, fun _ => none, fun _ => none, fun _ => none, fun _ => none, fun _ => none, fun _ => none,
    fun _ => none⟩

def family {α : Type} (inner : Bool) (key : String) (tags : List String)
    (fields : String → Row → Option α) (value : Json) : Option α :=
  (tagged? inner key tags value).bind fun (tag, row) => fields tag row

def deeper (inner : Bool) (nested : Readers) : Readers where
  inner := inner
  typeRef := family inner "kind" TypeRef.tags nested.typeFields
  pattern := family inner "pattern" Pattern.tags nested.patternFields
  expression := family inner "kind" Expression.tags nested.expressionFields
  queryClause := family inner "clause" QueryClause.tags nested.queryClauseFields
  statement := family inner "kind" Statement.tags nested.statementFields
  typeMember := family inner "kind" TypeMember.tags nested.typeMemberFields
  namespaceMember := family inner "kind" NamespaceMember.tags nested.namespaceMemberFields

def upTo (inner : Bool) : Nat → Readers
  | 0 => refusing inner
  | levels + 1 => deeper inner (upTo true levels)

end Readers

end CSharpLayout
