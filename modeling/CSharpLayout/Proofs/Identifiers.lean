import CSharpLayout.Layout.Slots

/-! The names that are stored in a tree, in the order of its fields. A constructor or destructor has none of
its own: it takes the name of its type. With `hidden` the names count that no text has a place for: those in
the parameters of an anonymous method without a parameter list, and the variable of a catch clause that
names no type. -/

namespace CSharpLayout

section Collecting

variable (hidden : Bool)

mutual

def TypeRef.identifiers : TypeRef → List Identifier
  | .primitive _ => []
  | .simple name typeArguments => name :: typeArguments.flatMap TypeRef.identifiers
  | .member target _ memberName typeArguments =>
      target.identifiers ++ memberName :: typeArguments.flatMap TypeRef.identifiers
  | .composed baseType _ _ _ => baseType.identifiers
  | .pattern placeholder => placeholder.identifiers
termination_by value => sizeOf value

def Pattern.identifiers : Pattern → List Identifier
  | .any _ => []
  | .backreference _ => []
  | .identifierBackreference _ => []
  | .choice alternatives => alternatives.flatMap PatternItem.identifiers
  | .named _ child => child.identifiers
  | .repeated _ _ child => child.identifiers
  | .optional child => child.identifiers
termination_by value => sizeOf value

def PatternItem.identifiers : PatternItem → List Identifier
  | .pattern nested => nested.identifiers
  | .type found => found.identifiers
  | .expression found => found.identifiers
  | .statement found => found.identifiers
  | .value _ => []
termination_by value => sizeOf value

def Expression.identifiers : Expression → List Identifier
  | .anonymousMethod _ hasParameterList parameters body =>
      (if hidden || hasParameterList then parameters.flatMap Parameter.identifiers else []) ++
        body.identifiers
  | .undocumented _ arguments => arguments.flatMap Expression.identifiers
  | .arrayCreate elementType arguments _ initializer =>
      elementType.identifiers ++ arguments.flatMap Expression.identifiers ++
        (match initializer with
          | none => []
          | some braces => braces.identifiers)
  | .arrayInitializer initializer => initializer.identifiers
  | .asType operand targetType => operand.identifiers ++ targetType.identifiers
  | .assignment left _ right => left.identifiers ++ right.identifiers
  | .baseReference => []
  | .binary left _ right => left.identifiers ++ right.identifiers
  | .cast targetType operand => targetType.identifiers ++ operand.identifiers
  | .checked operand => operand.identifiers
  | .conditional condition whenTrue whenFalse =>
      condition.identifiers ++ whenTrue.identifiers ++ whenFalse.identifiers
  | .defaultValue targetType => targetType.identifiers
  | .direction _ operand => operand.identifiers
  | .identifier name typeArguments => name :: typeArguments.flatMap TypeRef.identifiers
  | .indexer target arguments => target.identifiers ++ arguments.flatMap Expression.identifiers
  | .invocation target arguments => target.identifiers ++ arguments.flatMap Expression.identifiers
  | .isType operand targetType => operand.identifiers ++ targetType.identifiers
  | .lambda _ parameters body => parameters.flatMap Parameter.identifiers ++ body.identifiers
  | .memberReference target memberName typeArguments =>
      target.identifiers ++ memberName :: typeArguments.flatMap TypeRef.identifiers
  | .namedArgument name operand => name :: operand.identifiers
  | .named name operand => name :: operand.identifiers
  | .nullReference => []
  | .objectCreate createdType arguments _ initializer =>
      createdType.identifiers ++ arguments.flatMap Expression.identifiers ++
        (match initializer with
          | none => []
          | some braces => braces.identifiers)
  | .anonymousTypeCreate initializers => initializers.flatMap Expression.identifiers
  | .parenthesized operand => operand.identifiers
  | .pointerReference target memberName typeArguments =>
      target.identifiers ++ memberName :: typeArguments.flatMap TypeRef.identifiers
  | .literal _ _ => []
  | .sizeOf targetType => targetType.identifiers
  | .stackAlloc elementType count => elementType.identifiers ++ count.identifiers
  | .thisReference => []
  | .typeOf targetType => targetType.identifiers
  | .typeReference targetType => targetType.identifiers
  | .unary _ operand => operand.identifiers
  | .unchecked operand => operand.identifiers
  | .query found => found.identifiers
  | .pattern placeholder => placeholder.identifiers
termination_by value => sizeOf value

def LambdaBody.identifiers : LambdaBody → List Identifier
  | .expression found => found.identifiers
  | .block found => found.identifiers
termination_by value => sizeOf value

def ArrayInitializer.identifiers : ArrayInitializer → List Identifier
  | ⟨elements, _, _⟩ => elements.flatMap Expression.identifiers
termination_by value => sizeOf value
decreasing_by
  have inside := List.sizeOf_lt_of_mem ‹_ ∈ elements›
  simp only [ArrayInitializer.mk.sizeOf_spec]
  omega

def Query.identifiers : Query → List Identifier
  | ⟨clauses⟩ => clauses.flatMap QueryClause.identifiers
termination_by value => sizeOf value

def QueryClause.identifiers : QueryClause → List Identifier
  | .continuation preceding name => preceding.identifiers ++ [name]
  | .fromIn variableType name operand =>
      (match variableType with
        | none => []
        | some type => type.identifiers) ++
        name :: operand.identifiers
  | .letBe name operand => name :: operand.identifiers
  | .whereTrue condition => condition.identifiers
  | .join variableType name inExpression onExpression equalsExpression into =>
      (match variableType with
        | none => []
        | some type => type.identifiers) ++
        name :: (inExpression.identifiers ++ onExpression.identifiers ++ equalsExpression.identifiers ++
          into.toList)
  | .orderBy orderings => orderings.flatMap QueryOrdering.identifiers
  | .select operand => operand.identifiers
  | .groupBy projection key => projection.identifiers ++ key.identifiers
termination_by value => sizeOf value

def QueryOrdering.identifiers : QueryOrdering → List Identifier
  | ⟨operand, _⟩ => operand.identifiers
termination_by value => sizeOf value

def Attribute.identifiers : Attribute → List Identifier
  | ⟨attributeType, arguments, _⟩ => attributeType.identifiers ++ arguments.flatMap Expression.identifiers
termination_by value => sizeOf value
decreasing_by
  · simp only [Attribute.mk.sizeOf_spec]
    omega
  · have inside := List.sizeOf_lt_of_mem ‹_ ∈ arguments›
    simp only [Attribute.mk.sizeOf_spec]
    omega

def AttributeSection.identifiers : AttributeSection → List Identifier
  | ⟨_, attributes⟩ => attributes.flatMap Attribute.identifiers
termination_by value => sizeOf value

def Parameter.identifiers : Parameter → List Identifier
  | ⟨attributes, _, parameterType, name, defaultExpression⟩ =>
      attributes.flatMap AttributeSection.identifiers ++
        (match parameterType with
          | none => []
          | some type => type.identifiers) ++
        name.toList ++
        (match defaultExpression with
          | none => []
          | some value => value.identifiers)
termination_by value => sizeOf value

def VariableInitializer.identifiers : VariableInitializer → List Identifier
  | ⟨name, initializer⟩ =>
      name :: (match initializer with
        | none => []
        | some value => value.identifiers)
termination_by value => sizeOf value

def VariableDeclaration.identifiers : VariableDeclaration → List Identifier
  | ⟨_, variableType, declarators⟩ =>
      variableType.identifiers ++ declarators.flatMap VariableInitializer.identifiers
termination_by value => sizeOf value

def Block.identifiers : Block → List Identifier
  | ⟨statements⟩ => statements.flatMap Statement.identifiers
termination_by value => sizeOf value

def Statement.identifiers : Statement → List Identifier
  | .block found => found.identifiers
  | .breaks => []
  | .checked body => body.identifiers
  | .continues => []
  | .doWhile body condition => body.identifiers ++ condition.identifiers
  | .empty => []
  | .expression operand => operand.identifiers
  | .fixed variableType declarators body =>
      variableType.identifiers ++ declarators.flatMap VariableInitializer.identifiers ++ body.identifiers
  | .foreach variableType variableName inExpression body =>
      variableType.identifiers ++ variableName :: (inExpression.identifiers ++ body.identifiers)
  | .forLoop initializers condition iterators body =>
      initializers.flatMap Statement.identifiers ++
        (match condition with
          | none => []
          | some value => value.identifiers) ++
        iterators.flatMap Statement.identifiers ++ body.identifiers
  | .goto target => [target]
  | .gotoCase target => target.identifiers
  | .gotoDefault => []
  | .ifElse condition whenTrue whenFalse =>
      condition.identifiers ++ whenTrue.identifiers ++
        (match whenFalse with
          | none => []
          | some other => other.identifiers)
  | .label name => [name]
  | .lock operand body => operand.identifiers ++ body.identifiers
  | .returns operand =>
      (match operand with
        | none => []
        | some value => value.identifiers)
  | .switch operand sections => operand.identifiers ++ sections.flatMap SwitchSection.identifiers
  | .throws operand =>
      (match operand with
        | none => []
        | some value => value.identifiers)
  | .tryCatch tryBlock catchClauses finallyBlock =>
      tryBlock.identifiers ++ catchClauses.flatMap CatchClause.identifiers ++
        (match finallyBlock with
          | none => []
          | some last => last.identifiers)
  | .unchecked body => body.identifiers
  | .unsafeBlock body => body.identifiers
  | .usingResource resource body => resource.identifiers ++ body.identifiers
  | .localVariables declaration => declaration.identifiers
  | .whileLoop condition body => condition.identifiers ++ body.identifiers
  | .yieldBreak => []
  | .yieldReturn operand => operand.identifiers
  | .comment _ => []
  | .directive _ => []
  | .pattern placeholder => placeholder.identifiers
termination_by value => sizeOf value

def UsingResource.identifiers : UsingResource → List Identifier
  | .declaration found => found.identifiers
  | .expression found => found.identifiers
termination_by value => sizeOf value

def SwitchSection.identifiers : SwitchSection → List Identifier
  | ⟨labels, statements⟩ => labels.flatMap CaseLabel.identifiers ++ statements.flatMap Statement.identifiers
termination_by value => sizeOf value

def CaseLabel.identifiers : CaseLabel → List Identifier
  | ⟨operand⟩ =>
      (match operand with
        | none => []
        | some value => value.identifiers)
termination_by value => sizeOf value

def CatchClause.identifiers : CatchClause → List Identifier
  | ⟨catchType, variableName, condition, body⟩ =>
      (match catchType with
        | none => if hidden then variableName.toList else []
        | some type => type.identifiers ++ variableName.toList) ++
        (match condition with
          | none => []
          | some value => value.identifiers) ++
        body.identifiers
termination_by value => sizeOf value

end

def UsingDeclaration.identifiers (declaration : UsingDeclaration) : List Identifier :=
  declaration.target.identifiers hidden

def UsingAlias.identifiers (declaration : UsingAlias) : List Identifier :=
  declaration.name :: declaration.target.identifiers hidden

def TypeParameter.identifiers (parameter : TypeParameter) : List Identifier :=
  parameter.attributes.flatMap (AttributeSection.identifiers hidden) ++ [parameter.name]

def Constraint.identifiers (constraint : Constraint) : List Identifier :=
  constraint.typeParameter :: constraint.baseTypes.flatMap (TypeRef.identifiers hidden)

def DelegateDeclaration.identifiers (declaration : DelegateDeclaration) : List Identifier :=
  declaration.attributes.flatMap (AttributeSection.identifiers hidden) ++
    declaration.returnType.identifiers hidden ++
    [declaration.name] ++ declaration.typeParameters.flatMap (TypeParameter.identifiers hidden) ++
    declaration.parameters.flatMap (Parameter.identifiers hidden) ++
    declaration.constraints.flatMap (Constraint.identifiers hidden)

def FieldDeclaration.identifiers (declaration : FieldDeclaration) : List Identifier :=
  declaration.attributes.flatMap (AttributeSection.identifiers hidden) ++
    declaration.returnType.identifiers hidden ++
    declaration.declarators.flatMap (VariableInitializer.identifiers hidden)

def FixedVariable.identifiers (buffer : FixedVariable) : List Identifier :=
  buffer.name :: buffer.count.toList.flatMap (Expression.identifiers hidden)

def FixedFieldDeclaration.identifiers (declaration : FixedFieldDeclaration) : List Identifier :=
  declaration.attributes.flatMap (AttributeSection.identifiers hidden) ++
    declaration.returnType.identifiers hidden ++
    declaration.declarators.flatMap (FixedVariable.identifiers hidden)

def MethodDeclaration.identifiers (declaration : MethodDeclaration) : List Identifier :=
  declaration.attributes.flatMap (AttributeSection.identifiers hidden) ++
    declaration.returnType.identifiers hidden ++
    declaration.explicitInterface.toList.flatMap (TypeRef.identifiers hidden) ++ [declaration.name] ++
    declaration.typeParameters.flatMap (TypeParameter.identifiers hidden) ++
    declaration.parameters.flatMap (Parameter.identifiers hidden) ++
    declaration.constraints.flatMap (Constraint.identifiers hidden) ++
    declaration.body.toList.flatMap (Block.identifiers hidden)

def ConstructorInitializer.identifiers (initializer : ConstructorInitializer) : List Identifier :=
  initializer.arguments.flatMap (Expression.identifiers hidden)

def ConstructorDeclaration.identifiers (declaration : ConstructorDeclaration) : List Identifier :=
  declaration.attributes.flatMap (AttributeSection.identifiers hidden) ++
    declaration.parameters.flatMap (Parameter.identifiers hidden) ++
    declaration.initializer.toList.flatMap (ConstructorInitializer.identifiers hidden) ++
    declaration.body.toList.flatMap (Block.identifiers hidden)

def DestructorDeclaration.identifiers (declaration : DestructorDeclaration) : List Identifier :=
  declaration.attributes.flatMap (AttributeSection.identifiers hidden) ++
    declaration.body.toList.flatMap (Block.identifiers hidden)

def Accessor.identifiers (accessor : Accessor) : List Identifier :=
  accessor.attributes.flatMap (AttributeSection.identifiers hidden) ++
    accessor.body.toList.flatMap (Block.identifiers hidden)

def PropertyDeclaration.identifiers (declaration : PropertyDeclaration) : List Identifier :=
  declaration.attributes.flatMap (AttributeSection.identifiers hidden) ++
    declaration.returnType.identifiers hidden ++
    declaration.explicitInterface.toList.flatMap (TypeRef.identifiers hidden) ++ [declaration.name] ++
    declaration.accessors.flatMap (Accessor.identifiers hidden)

def IndexerDeclaration.identifiers (declaration : IndexerDeclaration) : List Identifier :=
  declaration.attributes.flatMap (AttributeSection.identifiers hidden) ++
    declaration.returnType.identifiers hidden ++
    declaration.explicitInterface.toList.flatMap (TypeRef.identifiers hidden) ++
    declaration.parameters.flatMap (Parameter.identifiers hidden) ++
    declaration.accessors.flatMap (Accessor.identifiers hidden)

def EventDeclaration.identifiers (declaration : EventDeclaration) : List Identifier :=
  declaration.attributes.flatMap (AttributeSection.identifiers hidden) ++
    declaration.returnType.identifiers hidden ++
    declaration.declarators.flatMap (VariableInitializer.identifiers hidden)

def CustomEventDeclaration.identifiers (declaration : CustomEventDeclaration) : List Identifier :=
  declaration.attributes.flatMap (AttributeSection.identifiers hidden) ++
    declaration.returnType.identifiers hidden ++
    declaration.explicitInterface.toList.flatMap (TypeRef.identifiers hidden) ++ [declaration.name] ++
    declaration.accessors.flatMap (Accessor.identifiers hidden)

def OperatorDeclaration.identifiers (declaration : OperatorDeclaration) : List Identifier :=
  declaration.attributes.flatMap (AttributeSection.identifiers hidden) ++
    declaration.returnType.identifiers hidden ++
    declaration.parameters.flatMap (Parameter.identifiers hidden) ++
    declaration.body.toList.flatMap (Block.identifiers hidden)

def EnumMember.identifiers (member : EnumMember) : List Identifier :=
  member.attributes.flatMap (AttributeSection.identifiers hidden) ++ [member.name] ++
    member.initializer.toList.flatMap (Expression.identifiers hidden)

mutual

def TypeDeclaration.identifiers : TypeDeclaration → List Identifier
  | ⟨attributes, _, _, name, typeParameters, baseTypes, constraints, members, _, _⟩ =>
      attributes.flatMap (AttributeSection.identifiers hidden) ++ [name] ++
        typeParameters.flatMap (TypeParameter.identifiers hidden) ++
        baseTypes.flatMap (TypeRef.identifiers hidden) ++ constraints.flatMap
          (Constraint.identifiers hidden) ++
        members.flatMap TypeMember.identifiers
termination_by value => sizeOf value
decreasing_by
  have inside := List.sizeOf_lt_of_mem ‹_ ∈ members›
  simp only [TypeDeclaration.mk.sizeOf_spec]
  omega

def TypeMember.identifiers : TypeMember → List Identifier
  | .field declaration => declaration.identifiers hidden
  | .fixedField declaration => declaration.identifiers hidden
  | .method declaration => declaration.identifiers hidden
  | .constructor declaration => declaration.identifiers hidden
  | .destructor declaration => declaration.identifiers hidden
  | .property declaration => declaration.identifiers hidden
  | .indexer declaration => declaration.identifiers hidden
  | .event declaration => declaration.identifiers hidden
  | .customEvent declaration => declaration.identifiers hidden
  | .operator declaration => declaration.identifiers hidden
  | .enumMember member => member.identifiers hidden
  | .type declaration => declaration.identifiers
  | .delegate declaration => declaration.identifiers hidden
  | .comment _ => []
  | .directive _ => []
termination_by value => sizeOf value

end

mutual

def NamespaceDeclaration.identifiers : NamespaceDeclaration → List Identifier
  | ⟨name, members, _⟩ => name.identifiers hidden ++ members.flatMap NamespaceMember.identifiers
termination_by value => sizeOf value
decreasing_by
  have inside := List.sizeOf_lt_of_mem ‹_ ∈ members›
  simp only [NamespaceDeclaration.mk.sizeOf_spec]
  omega

def NamespaceMember.identifiers : NamespaceMember → List Identifier
  | .namespaceDeclaration declaration => declaration.identifiers
  | .usingDeclaration declaration => declaration.identifiers hidden
  | .usingAlias declaration => declaration.identifiers hidden
  | .externAlias declaration => [declaration.name]
  | .type declaration => declaration.identifiers hidden
  | .delegate declaration => declaration.identifiers hidden
  | .attributeSection found => found.identifiers hidden
  | .comment _ => []
  | .directive _ => []
termination_by value => sizeOf value

end

def SyntaxTree.identifiers (tree : SyntaxTree) : List Identifier :=
  tree.members.flatMap (NamespaceMember.identifiers hidden)

/-- The names in a node. No tree contains a documentation reference. -/
def Node.identifiers : Node → List Identifier
  | .syntaxTree tree => tree.identifiers hidden
  | .namespaceDeclaration declaration => declaration.identifiers hidden
  | .usingDeclaration declaration => declaration.identifiers hidden
  | .usingAlias declaration => declaration.identifiers hidden
  | .externAlias declaration => [declaration.name]
  | .typeDeclaration declaration => declaration.identifiers hidden
  | .delegate declaration => declaration.identifiers hidden
  | .attributeSection found => found.identifiers hidden
  | .attributeUse use => use.identifiers hidden
  | .field declaration => declaration.identifiers hidden
  | .fixedField declaration => declaration.identifiers hidden
  | .fixedVariable buffer => buffer.identifiers hidden
  | .method declaration => declaration.identifiers hidden
  | .constructor declaration => declaration.identifiers hidden
  | .constructorInitializer initializer => initializer.identifiers hidden
  | .destructor declaration => declaration.identifiers hidden
  | .property declaration => declaration.identifiers hidden
  | .indexer declaration => declaration.identifiers hidden
  | .accessor found => found.identifiers hidden
  | .event declaration => declaration.identifiers hidden
  | .customEvent declaration => declaration.identifiers hidden
  | .operator declaration => declaration.identifiers hidden
  | .enumMember member => member.identifiers hidden
  | .parameter found => found.identifiers hidden
  | .typeParameter found => found.identifiers hidden
  | .constraint found => found.identifiers hidden
  | .variableInitializer found => found.identifiers hidden
  | .documentationReference _ => []
  | .type found => found.identifiers hidden
  | .arraySpecifier _ => []
  | .expression found => found.identifiers hidden
  | .arrayInitializer initializer => initializer.identifiers hidden
  | .query found => found.identifiers hidden
  | .queryClause clause => clause.identifiers hidden
  | .queryOrdering ordering => ordering.identifiers hidden
  | .statement found => found.identifiers hidden
  | .block found => found.identifiers hidden
  | .variableDeclaration declaration => declaration.identifiers hidden
  | .switchSection found => found.identifiers hidden
  | .caseLabel label => label.identifiers hidden
  | .catchClause clause => clause.identifiers hidden
  | .comment _ => []
  | .directive _ => []
  | .pattern placeholder => placeholder.identifiers hidden

section Fields

theorem ArrayInitializer.identifiers_eq (initializer : ArrayInitializer) :
    initializer.identifiers hidden = initializer.elements.flatMap (Expression.identifiers hidden) := by
  cases initializer
  rw [identifiers]

theorem Query.identifiers_eq (query : Query) :
    query.identifiers hidden = query.clauses.flatMap (QueryClause.identifiers hidden) := by
  cases query
  rw [identifiers]

theorem QueryOrdering.identifiers_eq (ordering : QueryOrdering) :
    ordering.identifiers hidden = ordering.expression.identifiers hidden := by
  cases ordering
  rw [identifiers]

theorem Attribute.identifiers_eq (use : Attribute) :
    use.identifiers hidden =
      use.attributeType.identifiers hidden ++ use.arguments.flatMap (Expression.identifiers hidden) := by
  cases use
  rw [identifiers]

theorem AttributeSection.identifiers_eq (found : AttributeSection) :
    found.identifiers hidden = found.attributes.flatMap (Attribute.identifiers hidden) := by
  cases found
  rw [identifiers]

theorem Parameter.identifiers_eq (parameter : Parameter) :
    parameter.identifiers hidden =
      parameter.attributes.flatMap (AttributeSection.identifiers hidden) ++
        parameter.parameterType.toList.flatMap (TypeRef.identifiers hidden) ++ parameter.name.toList ++
        parameter.defaultExpression.toList.flatMap (Expression.identifiers hidden) := by
  obtain ⟨attributes, modifier, parameterType, name, defaultExpression⟩ := parameter
  cases parameterType <;> cases defaultExpression <;> simp [identifiers]

theorem VariableInitializer.identifiers_eq (found : VariableInitializer) :
    found.identifiers hidden =
      found.name :: found.initializer.toList.flatMap (Expression.identifiers hidden) := by
  obtain ⟨name, initializer⟩ := found
  cases initializer <;> simp [identifiers]

theorem VariableDeclaration.identifiers_eq (declaration : VariableDeclaration) :
    declaration.identifiers hidden =
      declaration.variableType.identifiers hidden ++
        declaration.declarators.flatMap (VariableInitializer.identifiers hidden) := by
  cases declaration
  rw [identifiers]

theorem Block.identifiers_eq (block : Block) :
    block.identifiers hidden = block.statements.flatMap (Statement.identifiers hidden) := by
  cases block
  rw [identifiers]

theorem SwitchSection.identifiers_eq (found : SwitchSection) :
    found.identifiers hidden =
      found.labels.flatMap (CaseLabel.identifiers hidden) ++
        found.statements.flatMap (Statement.identifiers hidden) := by
  cases found
  rw [identifiers]

theorem CaseLabel.identifiers_eq (label : CaseLabel) :
    label.identifiers hidden = label.expression.toList.flatMap (Expression.identifiers hidden) := by
  obtain ⟨operand⟩ := label
  cases operand <;> simp [identifiers]

theorem TypeDeclaration.identifiers_eq (declaration : TypeDeclaration) :
    declaration.identifiers hidden =
      declaration.attributes.flatMap (AttributeSection.identifiers hidden) ++ [declaration.name] ++
        declaration.typeParameters.flatMap (TypeParameter.identifiers hidden) ++
        declaration.baseTypes.flatMap (TypeRef.identifiers hidden) ++
        declaration.constraints.flatMap (Constraint.identifiers hidden) ++
        declaration.members.flatMap (TypeMember.identifiers hidden) := by
  cases declaration
  rw [identifiers]

theorem NamespaceDeclaration.identifiers_eq (declaration : NamespaceDeclaration) :
    declaration.identifiers hidden =
      declaration.name.identifiers hidden ++
        declaration.members.flatMap (NamespaceMember.identifiers hidden) := by
  cases declaration
  rw [identifiers]

end Fields

end Collecting

namespace Node

variable (hidden : Bool)

@[simp] theorem identifiers_attributeSection (found : AttributeSection) :
    (attributeSection found).identifiers hidden = found.identifiers hidden := rfl

@[simp] theorem identifiers_attributeUse (use : Attribute) :
    (attributeUse use).identifiers hidden = use.identifiers hidden := rfl

@[simp] theorem identifiers_fixedVariable (buffer : FixedVariable) :
    (fixedVariable buffer).identifiers hidden = buffer.identifiers hidden := rfl

@[simp] theorem identifiers_constructorInitializer (initializer : ConstructorInitializer) :
    (constructorInitializer initializer).identifiers hidden = initializer.identifiers hidden := rfl

@[simp] theorem identifiers_accessor (found : Accessor) :
    (accessor found).identifiers hidden = found.identifiers hidden := rfl

@[simp] theorem identifiers_parameter (found : Parameter) :
    (parameter found).identifiers hidden = found.identifiers hidden := rfl

@[simp] theorem identifiers_typeParameter (found : TypeParameter) :
    (typeParameter found).identifiers hidden = found.identifiers hidden := rfl

@[simp] theorem identifiers_constraint (found : Constraint) :
    (constraint found).identifiers hidden = found.identifiers hidden := rfl

@[simp] theorem identifiers_variableInitializer (found : VariableInitializer) :
    (variableInitializer found).identifiers hidden = found.identifiers hidden := rfl

@[simp] theorem identifiers_arrayInitializer (initializer : ArrayInitializer) :
    (arrayInitializer initializer).identifiers hidden = initializer.identifiers hidden := rfl

@[simp] theorem identifiers_query (found : Query) :
    (query found).identifiers hidden = found.identifiers hidden := rfl

@[simp] theorem identifiers_queryClause (clause : QueryClause) :
    (queryClause clause).identifiers hidden = clause.identifiers hidden := rfl

@[simp] theorem identifiers_queryOrdering (ordering : QueryOrdering) :
    (queryOrdering ordering).identifiers hidden = ordering.identifiers hidden := rfl

@[simp] theorem identifiers_block (found : Block) :
    (block found).identifiers hidden = found.identifiers hidden := rfl

@[simp] theorem identifiers_switchSection (found : SwitchSection) :
    (switchSection found).identifiers hidden = found.identifiers hidden := rfl

@[simp] theorem identifiers_caseLabel (label : CaseLabel) :
    (caseLabel label).identifiers hidden = label.identifiers hidden := rfl

@[simp] theorem identifiers_catchClause (clause : CatchClause) :
    (catchClause clause).identifiers hidden = clause.identifiers hidden := rfl

@[simp] theorem identifiers_arraySpecifier (specifier : ArraySpecifier) :
    (arraySpecifier specifier).identifiers hidden = [] := rfl

@[simp] theorem identifiers_ofType (type : TypeRef) :
    (ofType type).identifiers hidden = type.identifiers hidden := by
  cases type <;> simp only [ofType, identifiers, TypeRef.identifiers]

@[simp] theorem identifiers_ofExpression (expression : Expression) :
    (ofExpression expression).identifiers hidden = expression.identifiers hidden := by
  cases expression with
  | arrayInitializer initializer =>
      rw [Expression.identifiers]
      rfl
  | query found =>
      rw [Expression.identifiers]
      rfl
  | pattern placeholder =>
      rw [Expression.identifiers]
      rfl
  | _ => rfl

@[simp] theorem identifiers_ofStatement (statement : Statement) :
    (ofStatement statement).identifiers hidden = statement.identifiers hidden := by
  cases statement with
  | block found =>
      rw [Statement.identifiers]
      rfl
  | localVariables declaration =>
      rw [Statement.identifiers]
      rfl
  | comment found =>
      rw [Statement.identifiers]
      rfl
  | directive found =>
      rw [Statement.identifiers]
      rfl
  | pattern placeholder =>
      rw [Statement.identifiers]
      rfl
  | _ => rfl

@[simp] theorem identifiers_ofNamespaceMember (member : NamespaceMember) :
    (ofNamespaceMember member).identifiers hidden = member.identifiers hidden := by
  cases member <;> simp only [ofNamespaceMember, identifiers, NamespaceMember.identifiers]

@[simp] theorem identifiers_ofTypeMember (member : TypeMember) :
    (ofTypeMember member).identifiers hidden = member.identifiers hidden := by
  cases member <;> simp only [ofTypeMember, identifiers, TypeMember.identifiers]

@[simp] theorem identifiers_ofUsingResource (resource : UsingResource) :
    (ofUsingResource resource).identifiers hidden = resource.identifiers hidden := by
  cases resource with
  | declaration found => simp only [ofUsingResource, identifiers, UsingResource.identifiers]
  | expression found => rw [ofUsingResource, identifiers_ofExpression, UsingResource.identifiers]

@[simp] theorem identifiers_ofLambdaBody (body : LambdaBody) :
    (ofLambdaBody body).identifiers hidden = body.identifiers hidden := by
  cases body with
  | expression found => rw [ofLambdaBody, identifiers_ofExpression, LambdaBody.identifiers]
  | block found => simp only [ofLambdaBody, identifiers, LambdaBody.identifiers]

@[simp] theorem identifiers_ofTypes (types : List TypeRef) :
    (ofTypes types).flatMap (identifiers hidden) = types.flatMap (TypeRef.identifiers hidden) := by
  simp [ofTypes, List.flatMap_map]

@[simp] theorem identifiers_ofExpressions (expressions : List Expression) :
    (ofExpressions expressions).flatMap (identifiers hidden) =
      expressions.flatMap (Expression.identifiers hidden) := by
  simp [ofExpressions, List.flatMap_map]

@[simp] theorem identifiers_ofStatements (statements : List Statement) :
    (ofStatements statements).flatMap (identifiers hidden) =
      statements.flatMap (Statement.identifiers hidden) := by
  simp [ofStatements, List.flatMap_map]

@[simp] theorem identifiers_ofAttributes (attributes : List AttributeSection) :
    (ofAttributes attributes).flatMap (identifiers hidden) =
      attributes.flatMap (AttributeSection.identifiers hidden) := by
  simp [ofAttributes, List.flatMap_map]

@[simp] theorem identifiers_ofParameters (parameters : List Parameter) :
    (ofParameters parameters).flatMap (identifiers hidden) =
      parameters.flatMap (Parameter.identifiers hidden) := by
  simp [ofParameters, List.flatMap_map]

@[simp] theorem identifiers_ofTypeParameters (parameters : List TypeParameter) :
    (ofTypeParameters parameters).flatMap (identifiers hidden) =
      parameters.flatMap (TypeParameter.identifiers hidden) := by
  simp [ofTypeParameters, List.flatMap_map]

@[simp] theorem identifiers_ofConstraints (constraints : List Constraint) :
    (ofConstraints constraints).flatMap (identifiers hidden) =
      constraints.flatMap (Constraint.identifiers hidden) := by
  simp [ofConstraints, List.flatMap_map]

@[simp] theorem identifiers_ofVariables (declarators : List VariableInitializer) :
    (ofVariables declarators).flatMap (identifiers hidden) =
      declarators.flatMap (VariableInitializer.identifiers hidden) := by
  simp [ofVariables, List.flatMap_map]

@[simp] theorem identifiers_ofAccessors (accessors : List Accessor) :
    (ofAccessors accessors).flatMap (identifiers hidden) =
      accessors.flatMap (Accessor.identifiers hidden) := by
  simp [ofAccessors, List.flatMap_map]

@[simp] theorem identifiers_ofSpecifiers (specifiers : List ArraySpecifier) :
    (ofSpecifiers specifiers).flatMap (identifiers hidden) = [] := by
  simp [ofSpecifiers]

@[simp] theorem identifiers_ofType? (type : Option TypeRef) :
    (ofType? type).flatMap (identifiers hidden) = type.toList.flatMap (TypeRef.identifiers hidden) := by
  simp [ofType?, List.flatMap_map]

@[simp] theorem identifiers_ofExpression? (expression : Option Expression) :
    (ofExpression? expression).flatMap (identifiers hidden) =
      expression.toList.flatMap (Expression.identifiers hidden) := by
  simp [ofExpression?, List.flatMap_map]

@[simp] theorem identifiers_ofBlock? (body : Option Block) :
    (ofBlock? body).flatMap (identifiers hidden) = body.toList.flatMap (Block.identifiers hidden) := by
  simp [ofBlock?, List.flatMap_map]

end Node

mutual

theorem Pattern.identifiers_embedded (hidden : Bool) (placeholder : Pattern) :
    placeholder.embedded.flatMap (Node.identifiers hidden) = placeholder.identifiers hidden := by
  cases placeholder with
  | choice alternatives =>
      rw [Pattern.embedded, Pattern.identifiers, identifiers_embeddedInItems]
  | named groupName child => rw [Pattern.embedded, Pattern.identifiers, PatternItem.identifiers_embedded]
  | repeated min max child => rw [Pattern.embedded, Pattern.identifiers, PatternItem.identifiers_embedded]
  | optional child => rw [Pattern.embedded, Pattern.identifiers, PatternItem.identifiers_embedded]
  | _ => simp [Pattern.embedded, Pattern.identifiers]

theorem PatternItem.identifiers_embedded (hidden : Bool) (item : PatternItem) :
    item.embedded.flatMap (Node.identifiers hidden) = item.identifiers hidden := by
  cases item with
  | pattern nested => rw [PatternItem.embedded, PatternItem.identifiers, Pattern.identifiers_embedded]
  | _ => simp [PatternItem.embedded, PatternItem.identifiers]

theorem identifiers_embeddedInItems (hidden : Bool) (items : List PatternItem) :
    (embeddedInItems items).flatMap (Node.identifiers hidden) =
      items.flatMap (PatternItem.identifiers hidden) := by
  cases items with
  | nil => rfl
  | cons item rest =>
      rw [embeddedInItems, List.flatMap_append, List.flatMap_cons, PatternItem.identifiers_embedded,
        identifiers_embeddedInItems]

end

end CSharpLayout
