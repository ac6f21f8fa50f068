import CSharpLayout.Syntax.Declaration
import CSharpLayout.Syntax.Writing

/-! Declarations as JSON values. -/

namespace CSharpLayout

open Json

def declarationEntries (attributes : List AttributeSection) (modifiers : List Modifier) :
    List (String × Json) :=
  entryOfList "attributes" (attributes.map AttributeSection.toJson) ++
    entryOfList "modifiers" (modifiers.map spelled)

def UsingDeclaration.entries (declaration : UsingDeclaration) : List (String × Json) :=
  [("import", declaration.target.toJson)]

def UsingAlias.entries (declaration : UsingAlias) : List (String × Json) :=
  [("alias", declaration.name.toJson), ("import", declaration.target.toJson)]

def ExternAlias.entries (declaration : ExternAlias) : List (String × Json) :=
  [("name", declaration.name.toJson)]

def TypeParameter.toJson (parameter : TypeParameter) : Json :=
  .object (entryOfList "attributes" (parameter.attributes.map AttributeSection.toJson) ++
    [("variance", spelled parameter.variance), ("name", parameter.name.toJson)])

def Constraint.toJson (constraint : Constraint) : Json :=
  .object [("type_parameter", constraint.typeParameter.toJson),
    ("base_types", .array (constraint.baseTypes.map TypeRef.toJson))]

def DelegateDeclaration.entries (declaration : DelegateDeclaration) : List (String × Json) :=
  declarationEntries declaration.attributes declaration.modifiers ++
    [("return_type", declaration.returnType.toJson), ("name", declaration.name.toJson)] ++
    entryOfList "type_parameters" (declaration.typeParameters.map TypeParameter.toJson) ++
    [("parameters", .array (declaration.parameters.map Parameter.toJson))] ++
    entryOfList "constraints" (declaration.constraints.map Constraint.toJson)

def FieldDeclaration.entries (declaration : FieldDeclaration) : List (String × Json) :=
  declarationEntries declaration.attributes declaration.modifiers ++
    [("return_type", declaration.returnType.toJson),
      ("variables", .array (declaration.declarators.map VariableInitializer.toJson))]

def FixedVariable.toJson (buffer : FixedVariable) : Json :=
  .object ([("name", buffer.name.toJson)] ++
    entryOf "count_expression" (buffer.count.map Expression.toJson))

def FixedFieldDeclaration.entries (declaration : FixedFieldDeclaration) : List (String × Json) :=
  declarationEntries declaration.attributes declaration.modifiers ++
    [("return_type", declaration.returnType.toJson),
      ("variables", .array (declaration.declarators.map FixedVariable.toJson))]

def MethodDeclaration.entries (declaration : MethodDeclaration) : List (String × Json) :=
  declarationEntries declaration.attributes declaration.modifiers ++
    [("return_type", declaration.returnType.toJson)] ++
    entryOf "private_implementation_type" (declaration.explicitInterface.map TypeRef.toJson) ++
    [("name", declaration.name.toJson)] ++
    entryOfList "type_parameters" (declaration.typeParameters.map TypeParameter.toJson) ++
    [("parameters", .array (declaration.parameters.map Parameter.toJson))] ++
    entryOfList "constraints" (declaration.constraints.map Constraint.toJson) ++
    entryOf "body" (declaration.body.map Block.toJson)

def ConstructorInitializer.toJson (initializer : ConstructorInitializer) : Json :=
  .object [("initializer_type", spelled initializer.target),
    ("arguments", .array (initializer.arguments.map Expression.toJson))]

def ConstructorDeclaration.entries (declaration : ConstructorDeclaration) : List (String × Json) :=
  declarationEntries declaration.attributes declaration.modifiers ++
    [("name", declaration.name.toJson),
      ("parameters", .array (declaration.parameters.map Parameter.toJson))] ++
    entryOf "initializer" (declaration.initializer.map ConstructorInitializer.toJson) ++
    entryOf "body" (declaration.body.map Block.toJson)

def DestructorDeclaration.entries (declaration : DestructorDeclaration) : List (String × Json) :=
  declarationEntries declaration.attributes declaration.modifiers ++
    [("name", declaration.name.toJson)] ++ entryOf "body" (declaration.body.map Block.toJson)

def Accessor.toJson (accessor : Accessor) : Json :=
  .object (declarationEntries accessor.attributes accessor.modifiers ++
    [("kind", spelled accessor.kind)] ++ entryOf "body" (accessor.body.map Block.toJson))

def PropertyDeclaration.entries (declaration : PropertyDeclaration) : List (String × Json) :=
  declarationEntries declaration.attributes declaration.modifiers ++
    [("return_type", declaration.returnType.toJson)] ++
    entryOf "private_implementation_type" (declaration.explicitInterface.map TypeRef.toJson) ++
    [("name", declaration.name.toJson),
      ("accessors", .array (declaration.accessors.map Accessor.toJson))]

def IndexerDeclaration.entries (declaration : IndexerDeclaration) : List (String × Json) :=
  declarationEntries declaration.attributes declaration.modifiers ++
    [("return_type", declaration.returnType.toJson)] ++
    entryOf "private_implementation_type" (declaration.explicitInterface.map TypeRef.toJson) ++
    [("parameters", .array (declaration.parameters.map Parameter.toJson)),
      ("accessors", .array (declaration.accessors.map Accessor.toJson))]

def EventDeclaration.entries (declaration : EventDeclaration) : List (String × Json) :=
  declarationEntries declaration.attributes declaration.modifiers ++
    [("return_type", declaration.returnType.toJson),
      ("variables", .array (declaration.declarators.map VariableInitializer.toJson))]

def CustomEventDeclaration.entries (declaration : CustomEventDeclaration) : List (String × Json) :=
  declarationEntries declaration.attributes declaration.modifiers ++
    [("return_type", declaration.returnType.toJson)] ++
    entryOf "private_implementation_type" (declaration.explicitInterface.map TypeRef.toJson) ++
    [("name", declaration.name.toJson),
      ("accessors", .array (declaration.accessors.map Accessor.toJson))]

def OperatorDeclaration.entries (declaration : OperatorDeclaration) : List (String × Json) :=
  declarationEntries declaration.attributes declaration.modifiers ++
    [("operator", spelled declaration.operator), ("return_type", declaration.returnType.toJson),
      ("parameters", .array (declaration.parameters.map Parameter.toJson))] ++
    entryOf "body" (declaration.body.map Block.toJson)

def EnumMember.entries (member : EnumMember) : List (String × Json) :=
  declarationEntries member.attributes member.modifiers ++ [("name", member.name.toJson)] ++
    entryOf "initializer" (member.initializer.map Expression.toJson)

def DocumentationReference.toJson (reference : DocumentationReference) : Json :=
  .object ([("symbol_kind", spelled reference.symbolKind)] ++
    entryOf "declaring_type" (reference.declaringType.map TypeRef.toJson) ++
    entryOf "member_name" (reference.memberName.map Identifier.toJson) ++
    entryOf "operator" (reference.operator.map spelled) ++
    entryOf "conversion_return_type" (reference.conversionReturnType.map TypeRef.toJson) ++
    entryOfList "type_arguments" (reference.typeArguments.map TypeRef.toJson) ++
    [("has_parameter_list", .bool reference.hasParameterList)] ++
    entryOfList "parameters" (reference.parameters.map Parameter.toJson))

mutual

def TypeDeclaration.entries : TypeDeclaration → List (String × Json)
  | ⟨attributes, modifiers, kind, name, typeParameters, baseTypes, constraints, members,
      trailingComma, trailingSemicolon⟩ =>
      declarationEntries attributes modifiers ++
        [("class_type", spelled kind), ("name", name.toJson)] ++
        entryOfList "type_parameters" (typeParameters.map TypeParameter.toJson) ++
        entryOfList "base_types" (baseTypes.map TypeRef.toJson) ++
        entryOfList "constraints" (constraints.map Constraint.toJson) ++
        [("members", .array (members.map TypeMember.toJson)),
          ("trailing_comma", .bool trailingComma), ("trailing_semicolon", .bool trailingSemicolon)]
termination_by value => sizeOf value
decreasing_by
  have inside := List.sizeOf_lt_of_mem ‹_ ∈ members›
  simp only [TypeDeclaration.mk.sizeOf_spec]
  omega

def TypeMember.toJson : TypeMember → Json
  | .field declaration => tagged "kind" "Field" declaration.entries
  | .fixedField declaration => tagged "kind" "FixedField" declaration.entries
  | .method declaration => tagged "kind" "Method" declaration.entries
  | .constructor declaration => tagged "kind" "Constructor" declaration.entries
  | .destructor declaration => tagged "kind" "Destructor" declaration.entries
  | .property declaration => tagged "kind" "Property" declaration.entries
  | .indexer declaration => tagged "kind" "Indexer" declaration.entries
  | .event declaration => tagged "kind" "Event" declaration.entries
  | .customEvent declaration => tagged "kind" "CustomEvent" declaration.entries
  | .operator declaration => tagged "kind" "Operator" declaration.entries
  | .enumMember declaration => tagged "kind" "EnumMember" declaration.entries
  | .type declaration => tagged "kind" "Type" declaration.entries
  | .delegate declaration => tagged "kind" "Delegate" declaration.entries
  | .comment comment => tagged "kind" "Comment" comment.entries
  | .directive directive => tagged "kind" "Directive" directive.entries
termination_by value => sizeOf value

end

mutual

def NamespaceDeclaration.entries : NamespaceDeclaration → List (String × Json)
  | ⟨name, members, trailingSemicolon⟩ =>
      [("name", name.toJson), ("members", .array (members.map NamespaceMember.toJson)),
        ("trailing_semicolon", .bool trailingSemicolon)]
termination_by value => sizeOf value
decreasing_by
  have inside := List.sizeOf_lt_of_mem ‹_ ∈ members›
  simp only [NamespaceDeclaration.mk.sizeOf_spec]
  omega

def NamespaceMember.toJson : NamespaceMember → Json
  | .namespaceDeclaration declaration => tagged "kind" "Namespace" declaration.entries
  | .usingDeclaration declaration => tagged "kind" "Using" declaration.entries
  | .usingAlias declaration => tagged "kind" "UsingAlias" declaration.entries
  | .externAlias declaration => tagged "kind" "ExternAlias" declaration.entries
  | .type declaration => tagged "kind" "Type" declaration.entries
  | .delegate declaration => tagged "kind" "Delegate" declaration.entries
  | .attributeSection attributes => tagged "kind" "AttributeSection" attributes.entries
  | .comment comment => tagged "kind" "Comment" comment.entries
  | .directive directive => tagged "kind" "Directive" directive.entries
termination_by value => sizeOf value

end

def SyntaxTree.toJson (tree : SyntaxTree) : Json :=
  .object [("members", .array (tree.members.map NamespaceMember.toJson))]

end CSharpLayout
