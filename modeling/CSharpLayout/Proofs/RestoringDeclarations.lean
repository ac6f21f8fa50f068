import CSharpLayout.Proofs.Restoring

/-! Declarations are read back as they were written. Readers for values of some depth are made from readers
for values one level less deep, so an induction on the depth closes the circle: everything is read back. -/

namespace CSharpLayout

open Json

namespace Faithful

variable {levels : Nat} {readers : Readers} (faithful : Faithful levels readers)

include faithful

section Parts

theorem typeParameter :
    RestoresAll levels (recordOf? readers.typeParameter) TypeParameter.toJson
      (Node.ExactAs Node.typeParameter) := by
  refine RestoresRows.object (fun parameter fits exact => ?_) TypeParameter.toJson_eq
  exact .of_cells rfl (by decide) <|
    .cons (faithful.attributeSection.listed fits.1 exact.all.each) <|
    .cons (restoresAll_spelled.withDefault .invariant fits.2.1 trivial) <|
    .cons (restoresAll_identifier.required fits.2.2.1 trivial) .nil

theorem constraint :
    RestoresAll levels (recordOf? readers.constraint) Constraint.toJson (Node.ExactAs Node.constraint) := by
  refine @RestoresRows.object _ levels _ Constraint.fields _ _ (fun constraint fits exact => ?_) fun _ => rfl
  exact .of_cells rfl (by decide) <|
    .cons (restoresAll_identifier.required fits.1 trivial) <|
    .cons (faithful.typeRef.list fits.2.1 exact.all.each) .nil

theorem fixedVariable :
    RestoresAll levels (recordOf? readers.fixedVariable) FixedVariable.toJson
      (Node.ExactAs Node.fixedVariable) := by
  refine RestoresRows.object (fun buffer fits exact => ?_) FixedVariable.toJson_eq
  exact .of_cells rfl (by decide) <|
    .cons (restoresAll_identifier.required fits.1 trivial) <|
    .cons (faithful.expression.optional fits.2.1 exact.all.option) .nil

theorem constructorInitializer :
    RestoresAll levels (recordOf? readers.constructorInitializer) ConstructorInitializer.toJson
      (Node.ExactAs Node.constructorInitializer) := by
  refine @RestoresRows.object _ levels _ ConstructorInitializer.fields _ _ (fun _ fits exact => ?_) fun _ =>
    rfl
  exact .of_cells rfl (by decide) <|
    .cons (restoresAll_spelled.required fits.1 trivial) <|
    .cons (faithful.expression.listOrNothing fits.2.1 exact.all.each) .nil

theorem opening {α : Type} {attributes : List AttributeSection} {modifiers : List Modifier}
    {rest : Fields} {value : α} {next : List AttributeSection → List Modifier → Option α}
    (fits : (openingFields attributes modifiers rest).Fit levels)
    (exact : Node.AllExact (Node.ofAttributes attributes))
    (later : RestoresCells (next attributes modifiers) rest value) :
    RestoresCells
      (readers.attributeSections (Cell.of (listed (attributes.map AttributeSection.toJson))) >>=
        fun attributes =>
        readers.modifierList (Cell.of (listed (modifiers.map spelled))) >>= fun modifiers =>
          next attributes modifiers)
      (openingFields attributes modifiers rest) value :=
  .cons (faithful.attributeSection.listed fits.1 exact.each) <|
    .cons (restoresAll_spelled.listed fits.2.1 fun _ _ => trivial) later

theorem accessor :
    RestoresAll levels (recordOf? readers.accessor) Accessor.toJson (Node.ExactAs Node.accessor) := by
  refine RestoresRows.object (fun accessor fits exact => ?_) Accessor.toJson_eq
  exact .of_cells rfl (by decide) <| faithful.opening fits exact.all.left <|
    .cons (restoresAll_spelled.required fits.2.2.1 trivial) <|
    .cons (faithful.block.optional fits.2.2.2.1 exact.all.right.option) .nil

end Parts

section Declarations

theorem usingDeclarationRows :
    RestoresRows levels readers.usingDeclaration UsingDeclaration.fields
      (Node.ExactAs Node.usingDeclaration) :=
  fun _ fits exact =>
    .of_cell (faithful.typeRef.required fits.1 exact.all.head) UsingDeclaration.mk fun _ => rfl

theorem usingAliasRows :
    RestoresRows levels readers.usingAlias UsingAlias.fields (Node.ExactAs Node.usingAlias) :=
  fun _ fits exact => .of_cells rfl (by decide) <|
    .cons (restoresAll_identifier.required fits.1 trivial) <|
    .cons (faithful.typeRef.required fits.2.1 exact.all.head) .nil

omit faithful in
theorem externAliasRows :
    RestoresRows levels readers.externAlias ExternAlias.fields fun _ => True :=
  fun _ fits _ => .of_cell (restoresAll_identifier.required fits.1 trivial) ExternAlias.mk fun _ => rfl

theorem delegateRows :
    RestoresRows levels readers.delegate DelegateDeclaration.fields (Node.ExactAs Node.delegate) :=
  fun _ fits exact => .of_cells rfl (by decide) <| faithful.opening fits exact.all.left.left.left.left <|
    .cons (faithful.typeRef.required fits.2.2.1 exact.all.left.left.left.right.head) <|
    .cons (restoresAll_identifier.required fits.2.2.2.1 trivial) <|
    .cons (faithful.typeParameter.listed fits.2.2.2.2.1 exact.all.left.left.right.each) <|
    .cons (faithful.parameter.listOrNothing fits.2.2.2.2.2.1 exact.all.left.right.each) <|
    .cons (faithful.constraint.listed fits.2.2.2.2.2.2.1 exact.all.right.each) .nil

theorem fieldRows : RestoresRows levels readers.field FieldDeclaration.fields (Node.ExactAs Node.field) :=
  fun _ fits exact => .of_cells rfl (by decide) <| faithful.opening fits exact.all.left.left <|
    .cons (faithful.typeRef.required fits.2.2.1 exact.all.left.right.head) <|
    .cons (faithful.variableInitializer.list fits.2.2.2.1 exact.all.right.each) .nil

theorem fixedFieldRows :
    RestoresRows levels readers.fixedField FixedFieldDeclaration.fields (Node.ExactAs Node.fixedField) :=
  fun _ fits exact => .of_cells rfl (by decide) <| faithful.opening fits exact.all.left.left <|
    .cons (faithful.typeRef.required fits.2.2.1 exact.all.left.right.head) <|
    .cons (faithful.fixedVariable.list fits.2.2.2.1 exact.all.right.each) .nil

theorem methodRows :
    RestoresRows levels readers.method MethodDeclaration.fields (Node.ExactAs Node.method) :=
  fun _ fits exact =>
    .of_cells rfl (by decide) <| faithful.opening fits exact.all.left.left.left.left.left.left <|
    .cons (faithful.typeRef.required fits.2.2.1 exact.all.left.left.left.left.left.right.head) <|
    .cons (faithful.typeRef.optional fits.2.2.2.1 exact.all.left.left.left.left.right.option) <|
    .cons (restoresAll_identifier.required fits.2.2.2.2.1 trivial) <|
    .cons (faithful.typeParameter.listed fits.2.2.2.2.2.1 exact.all.left.left.left.right.each) <|
    .cons (faithful.parameter.listOrNothing fits.2.2.2.2.2.2.1 exact.all.left.left.right.each) <|
    .cons (faithful.constraint.listed fits.2.2.2.2.2.2.2.1 exact.all.left.right.each) <|
    .cons (faithful.block.optional fits.2.2.2.2.2.2.2.2.1 exact.all.right.option) .nil

theorem constructorRows :
    RestoresRows levels readers.constructor ConstructorDeclaration.fields (Node.ExactAs Node.constructor) :=
  fun _ fits exact => .of_cells rfl (by decide) <| faithful.opening fits exact.all.left.left.left <|
    .cons (restoresAll_identifier.required fits.2.2.1 trivial) <|
    .cons (faithful.parameter.listOrNothing fits.2.2.2.1 exact.all.left.left.right.each) <|
    .cons (faithful.constructorInitializer.optional fits.2.2.2.2.1 exact.all.left.right.option) <|
    .cons (faithful.block.optional fits.2.2.2.2.2.1 exact.all.right.option) .nil

theorem destructorRows :
    RestoresRows levels readers.destructor DestructorDeclaration.fields (Node.ExactAs Node.destructor) :=
  fun _ fits exact => .of_cells rfl (by decide) <| faithful.opening fits exact.all.left <|
    .cons (restoresAll_identifier.required fits.2.2.1 trivial) <|
    .cons (faithful.block.optional fits.2.2.2.1 exact.all.right.option) .nil

theorem propertyRows :
    RestoresRows levels readers.property PropertyDeclaration.fields (Node.ExactAs Node.property) :=
  fun _ fits exact => .of_cells rfl (by decide) <| faithful.opening fits exact.all.left.left.left <|
    .cons (faithful.typeRef.required fits.2.2.1 exact.all.left.left.right.head) <|
    .cons (faithful.typeRef.optional fits.2.2.2.1 exact.all.left.right.option) <|
    .cons (restoresAll_identifier.required fits.2.2.2.2.1 trivial) <|
    .cons (faithful.accessor.list fits.2.2.2.2.2.1 exact.all.right.each) .nil

theorem indexerRows :
    RestoresRows levels readers.indexer IndexerDeclaration.fields (Node.ExactAs Node.indexer) :=
  fun _ fits exact => .of_cells rfl (by decide) <| faithful.opening fits exact.all.left.left.left.left <|
    .cons (faithful.typeRef.required fits.2.2.1 exact.all.left.left.left.right.head) <|
    .cons (faithful.typeRef.optional fits.2.2.2.1 exact.all.left.left.right.option) <|
    .cons (faithful.parameter.list fits.2.2.2.2.1 exact.all.left.right.each) <|
    .cons (faithful.accessor.list fits.2.2.2.2.2.1 exact.all.right.each) .nil

theorem eventRows : RestoresRows levels readers.event EventDeclaration.fields (Node.ExactAs Node.event) :=
  fun _ fits exact => .of_cells rfl (by decide) <| faithful.opening fits exact.all.left.left <|
    .cons (faithful.typeRef.required fits.2.2.1 exact.all.left.right.head) <|
    .cons (faithful.variableInitializer.list fits.2.2.2.1 exact.all.right.each) .nil

theorem customEventRows :
    RestoresRows levels readers.customEvent CustomEventDeclaration.fields (Node.ExactAs Node.customEvent) :=
  fun _ fits exact => .of_cells rfl (by decide) <| faithful.opening fits exact.all.left.left.left <|
    .cons (faithful.typeRef.required fits.2.2.1 exact.all.left.left.right.head) <|
    .cons (faithful.typeRef.optional fits.2.2.2.1 exact.all.left.right.option) <|
    .cons (restoresAll_identifier.required fits.2.2.2.2.1 trivial) <|
    .cons (faithful.accessor.list fits.2.2.2.2.2.1 exact.all.right.each) .nil

theorem operatorRows :
    RestoresRows levels readers.operator OperatorDeclaration.fields (Node.ExactAs Node.operator) :=
  fun _ fits exact => .of_cells rfl (by decide) <| faithful.opening fits exact.all.left.left.left <|
    .cons (restoresAll_spelled.required fits.2.2.1 trivial) <|
    .cons (faithful.typeRef.required fits.2.2.2.1 exact.all.left.left.right.head) <|
    .cons (faithful.parameter.list fits.2.2.2.2.1 exact.all.left.right.each) <|
    .cons (faithful.block.optional fits.2.2.2.2.2.1 exact.all.right.option) .nil

theorem enumMemberRows :
    RestoresRows levels readers.enumMember EnumMember.fields (Node.ExactAs Node.enumMember) :=
  fun _ fits exact => .of_cells rfl (by decide) <| faithful.opening fits exact.all.left <|
    .cons (restoresAll_identifier.required fits.2.2.1 trivial) <|
    .cons (faithful.expression.optional fits.2.2.2.1 exact.all.right.option) .nil

theorem documentationReference :
    RestoresAll levels (recordOf? readers.documentationReference) DocumentationReference.toJson
      (Node.ExactAs Node.documentationReference) := by
  refine RestoresRows.object (fun reference fits exact => ?_) DocumentationReference.toJson_eq
  have returned : ∀ type ∈ reference.conversionReturnType, (Node.ofType type).IsExact :=
    fun type given value held => exact value (.conversion given held)
  exact .of_cells rfl (by decide) <|
    .cons (restoresAll_spelled.required fits.1 trivial) <|
    .cons (faithful.typeRef.optional fits.2.1 exact.all.left.left.left.option) <|
    .cons (restoresAll_identifier.optional fits.2.2.1 fun _ _ => trivial) <|
    .cons (restoresAll_spelled.optional fits.2.2.2.1 fun _ _ => trivial) <|
    .cons (faithful.typeRef.optional fits.2.2.2.2.1 returned) <|
    .cons (faithful.typeRef.listed fits.2.2.2.2.2.1 exact.all.left.right.each) <|
    .cons (restoresAll_bool.withDefault false fits.2.2.2.2.2.2.1 trivial) <|
    .cons (faithful.parameter.listed fits.2.2.2.2.2.2.2.1 exact.all.right.each) .nil

theorem typeDeclarationRows :
    RestoresRows levels readers.typeDeclaration TypeDeclaration.fields (Node.ExactAs Node.typeDeclaration) :=
  fun ⟨_, _, _, _, _, _, _, _, _, _⟩ fits exact => .of_cells rfl (by decide) <|
    faithful.opening fits exact.all.left.left.left.left <|
    .cons (restoresAll_spelled.required fits.2.2.1 trivial) <|
    .cons (restoresAll_identifier.required fits.2.2.2.1 trivial) <|
    .cons (faithful.typeParameter.listed fits.2.2.2.2.1 exact.all.left.left.left.right.each) <|
    .cons (faithful.typeRef.listed fits.2.2.2.2.2.1 exact.all.left.left.right.each) <|
    .cons (faithful.constraint.listed fits.2.2.2.2.2.2.1 exact.all.left.right.each) <|
    .cons (faithful.typeMember.listOrNothing fits.2.2.2.2.2.2.2.1 exact.all.right.each) <|
    .cons (restoresAll_bool.withDefault false fits.2.2.2.2.2.2.2.2.1 trivial) <|
    .cons (restoresAll_bool.withDefault false fits.2.2.2.2.2.2.2.2.2.1 trivial) .nil

theorem namespaceDeclarationRows :
    RestoresRows levels readers.namespaceDeclaration NamespaceDeclaration.fields
      (Node.ExactAs Node.namespaceDeclaration) :=
  fun ⟨_, _, _⟩ fits exact => .of_cells rfl (by decide) <|
    .cons (faithful.typeRef.required fits.1 exact.all.head) <|
    .cons (faithful.namespaceMember.listOrNothing fits.2.1 exact.all.tail.each) <|
    .cons (restoresAll_bool.withDefault false fits.2.2.1 trivial) .nil

theorem syntaxTree :
    RestoresAll levels (recordOf? readers.syntaxTree) SyntaxTree.toJson (Node.ExactAs Node.syntaxTree) := by
  refine @RestoresRows.object _ levels _ SyntaxTree.fields _ _ (fun tree fits exact => ?_) fun _ => rfl
  exact .of_cell (faithful.namespaceMember.listOrNothing fits.1 exact.all.each) SyntaxTree.mk fun _ => rfl

end Declarations

section Members

theorem typeMemberForms :
    RestoresForms levels readers.typeMemberFields TypeMember.form (Node.ExactAs Node.ofTypeMember) := by
  intro found fits exact
  cases found with
  | field declaration => exact (faithful.fieldRows declaration fits exact).map TypeMember.field
  | fixedField declaration => exact (faithful.fixedFieldRows declaration fits exact).map TypeMember.fixedField
  | method declaration => exact (faithful.methodRows declaration fits exact).map TypeMember.method
  | constructor declaration =>
      exact (faithful.constructorRows declaration fits exact).map TypeMember.constructor
  | destructor declaration => exact (faithful.destructorRows declaration fits exact).map TypeMember.destructor
  | property declaration => exact (faithful.propertyRows declaration fits exact).map TypeMember.property
  | indexer declaration => exact (faithful.indexerRows declaration fits exact).map TypeMember.indexer
  | event declaration => exact (faithful.eventRows declaration fits exact).map TypeMember.event
  | customEvent declaration =>
      exact (faithful.customEventRows declaration fits exact).map TypeMember.customEvent
  | operator declaration => exact (faithful.operatorRows declaration fits exact).map TypeMember.operator
  | enumMember declaration => exact (faithful.enumMemberRows declaration fits exact).map TypeMember.enumMember
  | type declaration => exact (faithful.typeDeclarationRows declaration fits exact).map TypeMember.type
  | delegate declaration => exact (faithful.delegateRows declaration fits exact).map TypeMember.delegate
  | comment found => exact (restoresRows_comment found fits trivial).map TypeMember.comment
  | directive found => exact (restoresRows_directive found fits trivial).map TypeMember.directive

theorem namespaceMemberForms :
    RestoresForms levels readers.namespaceMemberFields NamespaceMember.form
      (Node.ExactAs Node.ofNamespaceMember) := by
  intro found fits exact
  cases found with
  | namespaceDeclaration declaration =>
      exact (faithful.namespaceDeclarationRows declaration fits exact).map
        NamespaceMember.namespaceDeclaration
  | usingDeclaration declaration =>
      exact (faithful.usingDeclarationRows declaration fits exact).map NamespaceMember.usingDeclaration
  | usingAlias declaration =>
      exact (faithful.usingAliasRows declaration fits exact).map NamespaceMember.usingAlias
  | externAlias declaration =>
      exact (externAliasRows declaration fits trivial).map NamespaceMember.externAlias
  | type declaration => exact (faithful.typeDeclarationRows declaration fits exact).map NamespaceMember.type
  | delegate declaration => exact (faithful.delegateRows declaration fits exact).map NamespaceMember.delegate
  | attributeSection attributes =>
      exact (faithful.attributeSectionRows attributes fits exact).map NamespaceMember.attributeSection
  | comment found => exact (restoresRows_comment found fits trivial).map NamespaceMember.comment
  | directive found => exact (restoresRows_directive found fits trivial).map NamespaceMember.directive

end Members

/-- One level more: tagged values are read back if their fields are. -/
theorem deeper (inner : Bool) : Faithful (levels + 1) (readers.deeper inner) where
  typeRef := faithful.typeForms.family TypeRef.toJson_eq TypeRef.tag_known TypeRef.key_free
  pattern := faithful.patternForms.family Pattern.toJson_eq Pattern.tag_known Pattern.key_free
  expression := faithful.expressionForms.family Expression.toJson_eq Expression.tag_known Expression.key_free
  queryClause :=
    faithful.queryClauseForms.family QueryClause.toJson_eq QueryClause.tag_known QueryClause.key_free
  statement := faithful.statementForms.family Statement.toJson_eq Statement.tag_known Statement.key_free
  typeMember := faithful.typeMemberForms.family TypeMember.toJson_eq TypeMember.tag_known TypeMember.key_free
  namespaceMember :=
    faithful.namespaceMemberForms.family NamespaceMember.toJson_eq NamespaceMember.tag_known
      NamespaceMember.key_free

end Faithful

/-- Readers for values of some depth read back all values of that depth. -/
theorem faithful_upTo (inner : Bool) (levels : Nat) : Faithful levels (Readers.upTo inner levels) := by
  induction levels generalizing inner with
  | zero =>
      -- Every tagged value has a level of its own, so there is none to read.
      exact ⟨.zero TypeRef.toJson_eq, .zero Pattern.toJson_eq, .zero Expression.toJson_eq,
        .zero QueryClause.toJson_eq, .zero Statement.toJson_eq, .zero TypeMember.toJson_eq,
        .zero NamespaceMember.toJson_eq⟩
  | succ levels ih => exact (ih true).deeper inner

end CSharpLayout
