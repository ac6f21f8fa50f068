import CSharpLayout.Proofs.Exactness
import CSharpLayout.Proofs.Forms

/-! Trees are read back as they were written: words first, then records given that what is nested in them is
read back, then the tagged families. -/

namespace CSharpLayout

open Json

section Spellings

class LawfulSpelled (α : Type) [Spelled α] : Prop where
  complete : ∀ value : α, value ∈ (Spelled.all : List α)
  distinct : (Spelled.spellings α).Nodup

theorem Spelled.ofSpelling?_spelling {α : Type} [Spelled α] [LawfulSpelled α] (value : α) :
    ofSpelling? (spelling value) = some value := by
  have distinct : (all.map (spelling : α → String)).Nodup := LawfulSpelled.distinct
  have complete := LawfulSpelled.complete value
  rw [ofSpelling?, List.find?_eq_some_iff_append]
  obtain ⟨before, after, split⟩ := List.append_of_mem complete
  refine ⟨by simp, before, after, split, fun other member => ?_⟩
  rw [split, List.map_append, List.nodup_append] at distinct
  have different := distinct.2.2 _ (List.mem_map_of_mem member) (spelling value) (by simp)
  simpa using different

instance : LawfulSpelled TokenClass := ⟨fun value => by cases value <;> decide +kernel, by decide +kernel⟩

instance : LawfulSpelled Modifier := ⟨fun value => by cases value <;> decide +kernel, by decide +kernel⟩

instance : LawfulSpelled CommentKind := ⟨fun value => by cases value <;> decide +kernel, by decide +kernel⟩

instance : LawfulSpelled DirectiveKind := ⟨fun value => by cases value <;> decide +kernel, by decide +kernel⟩

instance : LawfulSpelled AssignmentOperator :=
  ⟨fun value => by cases value <;> decide +kernel, by decide +kernel⟩

instance : LawfulSpelled BinaryOperator := ⟨fun value => by cases value <;> decide +kernel, by decide +kernel⟩

instance : LawfulSpelled UnaryOperator := ⟨fun value => by cases value <;> decide +kernel, by decide +kernel⟩

instance : LawfulSpelled OverloadableOperator :=
  ⟨fun value => by cases value <;> decide +kernel, by decide +kernel⟩

instance : LawfulSpelled TypeKind := ⟨fun value => by cases value <;> decide +kernel, by decide +kernel⟩

instance : LawfulSpelled InitializerTarget :=
  ⟨fun value => by cases value <;> decide +kernel, by decide +kernel⟩

instance : LawfulSpelled AccessorKind := ⟨fun value => by cases value <;> decide +kernel, by decide +kernel⟩

instance : LawfulSpelled Variance := ⟨fun value => by cases value <;> decide +kernel, by decide +kernel⟩

instance : LawfulSpelled SymbolKind := ⟨fun value => by cases value <;> decide +kernel, by decide +kernel⟩

instance : LawfulSpelled UndocumentedOperation :=
  ⟨fun value => by cases value <;> decide +kernel, by decide +kernel⟩

instance : LawfulSpelled PassingDirection :=
  ⟨fun value => by cases value <;> decide +kernel, by decide +kernel⟩

instance : LawfulSpelled SortDirection := ⟨fun value => by cases value <;> decide +kernel, by decide +kernel⟩

instance : LawfulSpelled ParameterModifier :=
  ⟨fun value => by cases value <;> decide +kernel, by decide +kernel⟩

end Spellings

section Words

variable {levels : Nat} {inner : Bool}

theorem restoresAll_string : RestoresAll levels string? .string fun _ => True := fun _ _ _ => ⟨rfl, rfl, rfl⟩

theorem restoresAll_bool : RestoresAll levels bool? .bool fun _ => True := fun _ _ _ => ⟨rfl, rfl, rfl⟩

theorem restoresAll_spelled {α : Type} [Spelled α] [LawfulSpelled α] :
    RestoresAll (α := α) levels (spelled? inner) spelled fun _ => True :=
  fun value _ _ => ⟨rfl, rfl, Spelled.ofSpelling?_spelling value⟩

theorem restoresCell_flag (flag : Bool) :
    RestoresCell (Cell.withDefault false bool?) (flagged flag) flag := by
  cases flag
  · exact ⟨by simp [flagged], rfl⟩
  · exact ⟨by simp [flagged, isReadable], rfl⟩

theorem uint32?_integer (value : UInt32) : uint32? (.integer value.toNat) = some value := by
  have small := value.toNat_lt
  have range : (0 : Int) ≤ value.toNat ∧ (value.toNat : Int) < Int.pow 2 32 := by
    refine ⟨by omega, ?_⟩
    show (value.toNat : Int) < 4294967296
    omega
  rw [integer, uint32?, if_pos range, Int.toNat_natCast, UInt32.ofNat_toNat]

theorem restoresAll_uint32 : RestoresAll levels uint32? (fun value => .integer value.toNat) fun _ => True :=
  fun value _ _ => ⟨rfl, rfl, uint32?_integer value⟩

theorem int32?_integer (value : Int32) : int32? (.integer value.toInt) = some value := by
  have range : -(Int.pow 2 31) ≤ value.toInt ∧ value.toInt < Int.pow 2 31 := ⟨value.le_toInt, value.toInt_lt⟩
  rw [integer, int32?, if_pos range, Int32.ofInt_toInt]

theorem int64?_integer (value : Int64) : int64? (.integer value.toInt) = some value := by
  have range : -(Int.pow 2 63) ≤ value.toInt ∧ value.toInt < Int.pow 2 63 := ⟨value.le_toInt, value.toInt_lt⟩
  rw [integer, int64?, if_pos range, Int64.ofInt_toInt]

theorem uint64?_count {value : Nat} (small : value < UInt64.size) :
    uint64? (.integer value) = some (UInt64.ofNat value) := by
  have range : (0 : Int) ≤ value ∧ (value : Int) < Int.pow 2 64 :=
    ⟨Int.natCast_nonneg value, Int.ofNat_lt.mpr small⟩
  rw [integer, uint64?, if_pos range, Int.toNat_natCast]

theorem uint64?_integer (value : UInt64) : uint64? (.integer value.toNat) = some value := by
  rw [uint64?_count value.toNat_lt, UInt64.ofNat_toNat]

theorem Literal.ofJson?_pair {α : Type} {name : String} {json : Json} {read : Json → Option α}
    {make : α → Literal} {value : α} (reads : read json = some value)
    (parts : ∀ json, Literal.ofParts? name (some json) = (read json).map make) :
    Literal.ofJson? inner (.object [("type", .string name), ("value", json)]) = some (make value) := by
  have split : Literal.ofJson? inner (.object [("type", .string name), ("value", json)]) =
      Literal.ofParts? name (some json) := rfl
  rw [split, parts, reads]
  rfl

theorem restoresAll_literal :
    RestoresAll levels (Literal.ofJson? inner) Literal.toJson fun value => value.isFloating = false := by
  intro value _ exact
  cases value with
  | null => exact ⟨rfl, rfl, rfl⟩
  | bool value => exact ⟨rfl, rfl, rfl⟩
  | char value => exact ⟨rfl, rfl, Literal.ofJson?_pair (by simp [char?]) fun _ => rfl⟩
  | string value => exact ⟨rfl, rfl, rfl⟩
  | int value => exact ⟨rfl, rfl, Literal.ofJson?_pair (int32?_integer value) fun _ => rfl⟩
  | uint value => exact ⟨rfl, rfl, Literal.ofJson?_pair (uint32?_integer value) fun _ => rfl⟩
  | long value => exact ⟨rfl, rfl, Literal.ofJson?_pair (int64?_integer value) fun _ => rfl⟩
  | ulong value => exact ⟨rfl, rfl, Literal.ofJson?_pair (uint64?_integer value) fun _ => rfl⟩
  | float value => cases exact
  | double value => cases exact
  | decimal digits => exact ⟨rfl, rfl, rfl⟩

theorem restoresAll_identifier :
    RestoresAll levels (Identifier.ofJson? inner) Identifier.toJson fun _ => True := by
  refine RestoresRows.object (fun identifier fits _ => ?_) Identifier.toJson_eq
  exact .of_cells rfl (by decide) <|
    .cons (restoresAll_string.required fits.1 trivial) <| .cons (restoresCell_flag identifier.verbatim) <|
    .cons (restoresAll_spelled.optional fits.2.2.1 fun _ _ => trivial) .nil

theorem restoresAll_specifier :
    RestoresAll levels ArraySpecifier.ofJson? ArraySpecifier.toJson fun _ => True := by
  refine @RestoresRows.object _ levels _ ArraySpecifier.fields _ _ (fun specifier fits _ => ?_) fun _ => rfl
  exact .of_cell (restoresAll_uint32.required fits.1 trivial) ArraySpecifier.mk fun _ => rfl

theorem restoresRows_comment : RestoresRows levels (Comment.ofRow? inner) Comment.fields fun _ => True :=
  fun comment fits _ => .of_cells rfl (by decide) <|
    .cons (restoresAll_spelled.required fits.1 trivial) <|
    .cons (restoresAll_string.required fits.2.1 trivial) .nil

theorem restoresRows_directive :
    RestoresRows levels (Directive.ofRow? inner) Directive.fields fun _ => True :=
  fun directive fits _ => .of_cells rfl (by decide) <|
    .cons (restoresAll_spelled.required fits.1 trivial) <|
    .cons (restoresAll_string.optional fits.2.1 fun _ _ => trivial) .nil

end Words

section Keys

variable {α β : Type} {read : Json → Option α} {json : Json} {value : α}

theorem Restores.keyed (restored : Restores read json value) {name : String} {readAll : Json → Option β}
    {make : α → β} (found : ∀ json, readAll (.object [(name, json)]) = (read json).map make) :
    Restores readAll (.object [(name, json)]) (make value) := by
  refine ⟨?_, rfl, ?_⟩
  · simp only [isReadable, haveReadable, restored.readable, Bool.and_self]
  · rw [found, restored.reads]
    rfl

theorem depth_of_keyed {levels : Nat} {name : String} (fits : (Json.object [(name, json)]).depth ≤ levels) :
    json.depth ≤ levels := by
  simp only [depth, depthOfEntries] at fits
  omega

end Keys

section Forms

variable {α : Type} {levels : Nat} {form : α → Form} {condition : α → Prop} {key : String} {write : α → Json}

def RestoresForms (levels : Nat) (read : String → Row → Option α) (form : α → Form) (condition : α → Prop) :
    Prop :=
  ∀ value, (form value).fields.Fit levels → condition value →
    RestoresRow (read (form value).tag) (form value).fields value

theorem Form.fit {form : Form} (fits : (form.toJson key).depth ≤ levels + 1) : form.fields.Fit levels := by
  simp only [Form.toJson, tagged, depth, depthOfEntries] at fits
  exact Fields.fit_iff.mp (by omega)

/-- A tagged value has a level of its own. -/
theorem RestoresAll.zero {read : Json → Option α} (shape : ∀ value, write value = (form value).toJson key) :
    RestoresAll 0 read write condition := by
  intro value fits
  rw [shape, Form.toJson, tagged, depth] at fits
  omega

theorem RestoresForms.family {inner : Bool} {tags : List String} {read : String → Row → Option α}
    (forms : RestoresForms levels read form condition)
    (shape : ∀ value, write value = (form value).toJson key)
    (known : ∀ value, tags.contains (form value).tag = true)
    (free : ∀ value, ((form value).fields.map Prod.fst).contains key = false) :
    RestoresAll (levels + 1) (Readers.family inner key tags read) write condition := by
  intro value fits good
  rw [shape] at fits ⊢
  exact (forms value (Form.fit fits) good).family (known value) (free value)

end Forms

/-- What is nested in a value is read back. -/
structure Faithful (levels : Nat) (readers : Readers) : Prop where
  typeRef : RestoresAll levels readers.typeRef TypeRef.toJson (Node.ExactAs Node.ofType)
  pattern : RestoresAll levels readers.pattern Pattern.toJson (Node.ExactAs Node.pattern)
  expression : RestoresAll levels readers.expression Expression.toJson (Node.ExactAs Node.ofExpression)
  queryClause : RestoresAll levels readers.queryClause QueryClause.toJson (Node.ExactAs Node.queryClause)
  statement : RestoresAll levels readers.statement Statement.toJson (Node.ExactAs Node.ofStatement)
  typeMember : RestoresAll levels readers.typeMember TypeMember.toJson (Node.ExactAs Node.ofTypeMember)
  namespaceMember :
    RestoresAll levels readers.namespaceMember NamespaceMember.toJson (Node.ExactAs Node.ofNamespaceMember)

namespace Faithful

variable {levels : Nat} {readers : Readers} (faithful : Faithful levels readers)

include faithful

section Records

-- `fits` follows the fields of a record, and `exact.all` the children of its node.

theorem blockRows : RestoresRows levels readers.block? Block.fields (Node.ExactAs Node.block) :=
  fun ⟨_⟩ fits exact => .of_cell (faithful.statement.listOrNothing fits.1 exact.all.each) Block.mk fun _ =>
    rfl

theorem block : RestoresAll levels readers.block Block.toJson (Node.ExactAs Node.block) :=
  faithful.blockRows.object fun block => by rw [Block.toJson, Block.entries_eq]

theorem arrayInitializerRows :
    RestoresRows levels readers.arrayInitializer? ArrayInitializer.fields
      (Node.ExactAs Node.arrayInitializer) :=
  fun ⟨_, _, _⟩ fits exact => .of_cells rfl (by decide) <|
    .cons (faithful.expression.listOrNothing fits.1 exact.all.each) <|
    .cons (restoresAll_bool.withDefault false fits.2.1 trivial) <|
    .cons (restoresAll_bool.withDefault false fits.2.2.1 trivial) .nil

theorem arrayInitializer :
    RestoresAll levels readers.arrayInitializer ArrayInitializer.toJson
      (Node.ExactAs Node.arrayInitializer) :=
  faithful.arrayInitializerRows.object fun found => by
    rw [ArrayInitializer.toJson, ArrayInitializer.entries_eq]

theorem queryRows : RestoresRows levels readers.query? Query.fields (Node.ExactAs Node.query) :=
  fun ⟨_⟩ fits exact => .of_cell (faithful.queryClause.list fits.1 exact.all.each) Query.mk fun _ => rfl

theorem query : RestoresAll levels readers.query Query.toJson (Node.ExactAs Node.query) :=
  faithful.queryRows.object fun query => by rw [Query.toJson, Query.entries_eq]

theorem queryOrdering :
    RestoresAll levels readers.queryOrdering QueryOrdering.toJson (Node.ExactAs Node.queryOrdering) := by
  refine RestoresRows.object (fun ⟨_, _⟩ fits exact => ?_) QueryOrdering.toJson_eq
  exact .of_cells rfl (by decide) <|
    .cons (faithful.expression.required fits.1 exact.all.head) <|
    .cons (restoresAll_spelled.withDefault .unspecified fits.2.1 trivial) .nil

theorem attributeUse :
    RestoresAll levels readers.attributeUse Attribute.toJson (Node.ExactAs Node.attributeUse) := by
  refine RestoresRows.object (fun ⟨_, _, _⟩ fits exact => ?_) Attribute.toJson_eq
  exact .of_cells rfl (by decide) <|
    .cons (faithful.typeRef.required fits.1 exact.all.head) <|
    .cons (faithful.expression.listed fits.2.1 exact.all.tail.each) <|
    .cons (restoresAll_bool.withDefault false fits.2.2.1 trivial) .nil

theorem attributeSectionRows :
    RestoresRows levels readers.attributeSection? AttributeSection.fields
      (Node.ExactAs Node.attributeSection) :=
  fun ⟨_, _⟩ fits exact => .of_cells rfl (by decide) <|
    .cons (restoresAll_string.optional fits.1 fun _ _ => trivial) <|
    .cons (faithful.attributeUse.list fits.2.1 exact.all.each) .nil

theorem attributeSection :
    RestoresAll levels readers.attributeSection AttributeSection.toJson
      (Node.ExactAs Node.attributeSection) :=
  faithful.attributeSectionRows.object fun found => by
    rw [AttributeSection.toJson, AttributeSection.entries_eq]

theorem parameter : RestoresAll levels readers.parameter Parameter.toJson (Node.ExactAs Node.parameter) := by
  refine RestoresRows.object (fun ⟨_, _, _, _, _⟩ fits exact => ?_) Parameter.toJson_eq
  exact .of_cells rfl (by decide) <|
    .cons (faithful.attributeSection.listed fits.1 exact.all.left.left.each) <|
    .cons (restoresAll_spelled.withDefault .plain fits.2.1 trivial) <|
    .cons (faithful.typeRef.optional fits.2.2.1 exact.all.left.right.option) <|
    .cons (restoresAll_identifier.optional fits.2.2.2.1 fun _ _ => trivial) <|
    .cons (faithful.expression.optional fits.2.2.2.2.1 exact.all.right.option) .nil

theorem variableInitializer :
    RestoresAll levels readers.variableInitializer VariableInitializer.toJson
      (Node.ExactAs Node.variableInitializer) := by
  refine RestoresRows.object (fun ⟨_, _⟩ fits exact => ?_) VariableInitializer.toJson_eq
  exact .of_cells rfl (by decide) <|
    .cons (restoresAll_identifier.required fits.1 trivial) <|
    .cons (faithful.expression.optional fits.2.1 exact.all.option) .nil

theorem variableDeclarationRows :
    RestoresRows levels readers.variableDeclaration? VariableDeclaration.fields
      (Node.ExactAs Node.variableDeclaration) :=
  fun ⟨_, _, _⟩ fits exact => .of_cells rfl (by decide) <|
    .cons (restoresAll_spelled.listed fits.1 fun _ _ => trivial) <|
    .cons (faithful.typeRef.required fits.2.1 exact.all.head) <|
    .cons (faithful.variableInitializer.list fits.2.2.1 exact.all.tail.each) .nil

theorem variableDeclaration :
    RestoresAll levels readers.variableDeclaration VariableDeclaration.toJson
      (Node.ExactAs Node.variableDeclaration) :=
  faithful.variableDeclarationRows.object fun found => by
    rw [VariableDeclaration.toJson, VariableDeclaration.entries_eq]

theorem caseLabel : RestoresAll levels readers.caseLabel CaseLabel.toJson (Node.ExactAs Node.caseLabel) := by
  refine RestoresRows.object (fun ⟨_⟩ fits exact => ?_) CaseLabel.toJson_eq
  exact .of_cell (faithful.expression.optional fits.1 exact.all.option) CaseLabel.mk fun _ => rfl

theorem switchSection :
    RestoresAll levels readers.switchSection SwitchSection.toJson (Node.ExactAs Node.switchSection) := by
  refine RestoresRows.object (fun ⟨_, _⟩ fits exact => ?_) SwitchSection.toJson_eq
  exact .of_cells rfl (by decide) <|
    .cons (faithful.caseLabel.list fits.1 exact.all.left.each) <|
    .cons (faithful.statement.listOrNothing fits.2.1 exact.all.right.each) .nil

theorem catchClause :
    RestoresAll levels readers.catchClause CatchClause.toJson (Node.ExactAs Node.catchClause) := by
  refine RestoresRows.object (fun ⟨_, _, _, _⟩ fits exact => ?_) CatchClause.toJson_eq
  exact .of_cells rfl (by decide) <|
    .cons (faithful.typeRef.optional fits.1 exact.all.left.left.option) <|
    .cons (restoresAll_identifier.optional fits.2.1 fun _ _ => trivial) <|
    .cons (faithful.expression.optional fits.2.2.1 exact.all.left.right.option) <|
    .cons (faithful.block.required fits.2.2.2.1 exact.all.right.head) .nil

theorem lambdaBody :
    RestoresAll levels readers.lambdaBody LambdaBody.toJson (Node.ExactAs Node.ofLambdaBody) := by
  intro body fits exact
  cases body with
  | expression found =>
      rw [LambdaBody.toJson] at fits ⊢
      exact (faithful.expression found (depth_of_keyed fits) exact).keyed fun _ => rfl
  | block found =>
      rw [LambdaBody.toJson] at fits ⊢
      exact (faithful.block found (depth_of_keyed fits) exact).keyed fun _ => rfl

theorem usingResource :
    RestoresAll levels readers.usingResource UsingResource.toJson (Node.ExactAs Node.ofUsingResource) := by
  intro resource fits exact
  cases resource with
  | declaration found =>
      rw [UsingResource.toJson] at fits ⊢
      exact (faithful.variableDeclaration found (depth_of_keyed fits) exact).keyed fun _ => rfl
  | expression found =>
      rw [UsingResource.toJson] at fits ⊢
      exact (faithful.expression found (depth_of_keyed fits) exact).keyed fun _ => rfl

theorem patternItem : RestoresAll levels readers.patternItem PatternItem.toJson PatternItem.IsExact := by
  intro item fits exact
  cases item with
  | pattern found =>
      rw [PatternItem.toJson] at fits ⊢
      exact (faithful.pattern found (depth_of_keyed fits) exact.pattern).keyed fun _ => rfl
  | type found =>
      rw [PatternItem.toJson] at fits ⊢
      exact (faithful.typeRef found (depth_of_keyed fits) exact.embedded.head).keyed fun _ => rfl
  | expression found =>
      rw [PatternItem.toJson] at fits ⊢
      exact (faithful.expression found (depth_of_keyed fits) exact.embedded.head).keyed fun _ => rfl
  | statement found =>
      rw [PatternItem.toJson] at fits ⊢
      exact (faithful.statement found (depth_of_keyed fits) exact.embedded.head).keyed fun _ => rfl
  | value found =>
      rw [PatternItem.toJson] at fits ⊢
      have plain : found.isFloating = false := exact.values found (by simp [PatternItem.values])
      exact (restoresAll_literal found (depth_of_keyed fits) plain).keyed fun _ => rfl

end Records

section Rows

variable {α : Type}

theorem expressionAndType {build : Expression → TypeRef → α} {operand : Expression} {type : TypeRef}
    (fits : Fields.Fit levels [("expression", some operand.toJson), ("target_type", some type.toJson)])
    (parts : Node.AllExact [Node.ofExpression operand, Node.ofType type]) :
    RestoresRow (readers.expressionAndType build)
      [("expression", some operand.toJson), ("target_type", some type.toJson)] (build operand type) :=
  .of_cells rfl (by decide) <|
    .cons (faithful.expression.required fits.1 parts.head) <|
    .cons (faithful.typeRef.required fits.2.1 parts.tail.head) .nil

theorem nameAndExpression {build : Identifier → Expression → α} {field : String} {name : Identifier}
    {operand : Expression} (distinct : [field, "expression"].Nodup)
    (fits : Fields.Fit levels [(field, some name.toJson), ("expression", some operand.toJson)])
    (parts : Node.AllExact [Node.ofExpression operand]) :
    RestoresRow (readers.nameAndExpression build field) [(field, some name.toJson),
      ("expression", some operand.toJson)]
      (build name operand) :=
  .of_cells rfl distinct <|
    .cons (restoresAll_identifier.required fits.1 trivial) <|
    .cons (faithful.expression.required fits.2.1 parts.head) .nil

theorem memberAccess {build : Expression → Identifier → List TypeRef → α} {target : Expression}
    {name : Identifier} {types : List TypeRef}
    (fits : Fields.Fit levels [("target", some target.toJson), ("member_name", some name.toJson),
      ("type_arguments", listed (types.map TypeRef.toJson))])
    (parts : Node.AllExact (Node.ofExpression target :: Node.ofTypes types)) :
    RestoresRow (readers.memberAccess build) [("target", some target.toJson),
      ("member_name", some name.toJson),
      ("type_arguments", listed (types.map TypeRef.toJson))] (build target name types) :=
  .of_cells rfl (by decide) <|
    .cons (faithful.expression.required fits.1 parts.head) <|
    .cons (restoresAll_identifier.required fits.2.1 trivial) <|
    .cons (faithful.typeRef.listed fits.2.2.1 parts.tail.each) .nil

theorem operands {β : Type} [Spelled β] [LawfulSpelled β] {build : Expression → β → Expression → α}
    {left right : Expression} {operator : β}
    (fits : Fields.Fit levels [("left", some left.toJson), ("operator", some (spelled operator)),
      ("right", some right.toJson)])
    (parts : Node.AllExact [Node.ofExpression left, Node.ofExpression right]) :
    RestoresRow (readers.operands build) [("left", some left.toJson), ("operator", some (spelled operator)),
      ("right", some right.toJson)] (build left operator right) :=
  .of_cells rfl (by decide) <|
    .cons (faithful.expression.required fits.1 parts.head) <|
    .cons (restoresAll_spelled.required fits.2.1 trivial) <|
    .cons (faithful.expression.required fits.2.2.1 parts.tail.head) .nil

theorem expressionAndBody {build : Expression → Statement → Statement} {field : String} {operand : Expression}
    {body : Statement} (distinct : [field, "embedded_statement"].Nodup)
    (fits : Fields.Fit levels [(field, some operand.toJson), ("embedded_statement", some body.toJson)])
    (parts : Node.AllExact [Node.ofExpression operand, Node.ofStatement body]) :
    RestoresRow (readers.expressionAndBody field build)
      [(field, some operand.toJson), ("embedded_statement", some body.toJson)] (build operand body) :=
  .of_cells rfl distinct <|
    .cons (faithful.expression.required fits.1 parts.head) <|
    .cons (faithful.statement.required fits.2.1 parts.tail.head) .nil

end Rows

section Families

theorem patternForms :
    RestoresForms levels readers.patternFields Pattern.form (Node.ExactAs Node.pattern) := by
  intro found fits exact
  cases found with
  | any groupName =>
      exact .of_cell (restoresAll_string.optional fits.1 fun _ _ => trivial) Pattern.any fun _ => rfl
  | backreference groupName =>
      exact .of_cell (restoresAll_string.required fits.1 trivial) Pattern.backreference fun _ => rfl
  | identifierBackreference groupName =>
      exact .of_cell (restoresAll_string.required fits.1 trivial) Pattern.identifierBackreference fun _ => rfl
  | choice alternatives =>
      -- The alternatives are no nodes: what they hold is held by the placeholder itself.
      have items := PatternItem.isExact_of_mem (fun value member => exact value (.listed member)) exact.all
      exact .of_cell (faithful.patternItem.list fits.1 items) Pattern.choice fun _ => rfl
  | named groupName child =>
      exact .of_cells rfl (by decide) <|
        .cons (restoresAll_string.optional fits.1 fun _ _ => trivial) <|
        .cons (faithful.patternItem.required fits.2.1 (exact.item rfl rfl)) .nil
  | repeated min max child =>
      exact .of_cells rfl (by decide) <|
        .cons (restoresAll_uint32.withDefault 0 fits.1 trivial) <|
        .cons (restoresAll_uint32.optional fits.2.1 fun _ _ => trivial) <|
        .cons (faithful.patternItem.required fits.2.2.1 (exact.item rfl rfl)) .nil
  | optional child =>
      exact .of_cell (faithful.patternItem.required fits.1 (exact.item rfl rfl)) Pattern.optional fun _ => rfl

/-- What remains of a tagged value whose fields are those of a placeholder. -/
theorem patternRows : RestoresRows levels readers.patternRow Pattern.fields (Node.ExactAs Node.pattern) := by
  intro found fits exact
  have row := faithful.patternForms found fits.2 exact
  have restored : Restores (Readers.family true "pattern" Pattern.tags readers.patternFields) _ found :=
    row.family found.tag_known found.key_free
  exact ⟨⟨by simp [isReadable], row.readable⟩, restored.reads⟩

theorem typeForms : RestoresForms levels readers.typeFields TypeRef.form (Node.ExactAs Node.ofType) := by
  intro type fits exact
  have parts := exact.all
  cases type with
  | primitive keyword =>
      exact .of_cell (restoresAll_string.required fits.1 trivial) TypeRef.primitive fun _ => rfl
  | simple identifier typeArguments =>
      exact .of_cells rfl (by decide) <|
        .cons (restoresAll_identifier.required fits.1 trivial) <|
        .cons (faithful.typeRef.listed fits.2.1 parts.each) .nil
  | member target isDoubleColon memberName typeArguments =>
      exact .of_cells rfl (by decide) <|
        .cons (faithful.typeRef.required fits.1 parts.head) <|
        .cons (restoresAll_bool.withDefault false fits.2.1 trivial) <|
        .cons (restoresAll_identifier.required fits.2.2.1 trivial) <|
        .cons (faithful.typeRef.listed fits.2.2.2.1 parts.tail.each) .nil
  | composed baseType nullable pointerRank arraySpecifiers =>
      exact .of_cells rfl (by decide) <|
        .cons (faithful.typeRef.required fits.1 parts.head) <|
        .cons (restoresAll_bool.withDefault false fits.2.1 trivial) <|
        .cons (restoresAll_uint32.withDefault 0 fits.2.2.1 trivial) <|
        .cons (restoresAll_specifier.listed fits.2.2.2.1 fun _ _ => trivial) .nil
  | pattern found => exact (faithful.patternRows found fits exact).map TypeRef.pattern

theorem expressionForms :
    RestoresForms levels readers.expressionFields Expression.form (Node.ExactAs Node.ofExpression) := by
  intro found fits exact
  have parts := exact.all
  cases found with
  | anonymousMethod isAsync hasParameterList parameters body =>
      exact .of_cells rfl (by decide) <|
        .cons (restoresAll_bool.withDefault false fits.1 trivial) <|
        .cons (restoresAll_bool.withDefault false fits.2.1 trivial) <|
        .cons (faithful.parameter.listed fits.2.2.1 parts.left.each) <|
        .cons (faithful.block.required fits.2.2.2.1 parts.right.head) .nil
  | undocumented operation arguments =>
      exact .of_cells rfl (by decide) <|
        .cons (restoresAll_spelled.required fits.1 trivial) <|
        .cons (faithful.expression.listed fits.2.1 parts.each) .nil
  | arrayCreate elementType arguments additionalSpecifiers initializer =>
      exact .of_cells rfl (by decide) <|
        .cons (faithful.typeRef.required fits.1 parts.head) <|
        .cons (faithful.expression.listed fits.2.1 parts.tail.left.left.each) <|
        .cons (restoresAll_specifier.listed fits.2.2.1 fun _ _ => trivial) <|
        .cons (faithful.arrayInitializer.optional fits.2.2.2.1 parts.tail.right.option) .nil
  | arrayInitializer initializer =>
      exact (faithful.arrayInitializerRows initializer fits exact).map Expression.arrayInitializer
  | asType operand targetType => exact faithful.expressionAndType fits parts
  | assignment left operator right => exact faithful.operands fits parts
  | baseReference => exact .unit _
  | binary left operator right => exact faithful.operands fits parts
  | cast targetType operand =>
      exact .of_cells rfl (by decide) <|
        .cons (faithful.typeRef.required fits.1 parts.head) <|
        .cons (faithful.expression.required fits.2.1 parts.tail.head) .nil
  | checked operand =>
      exact .of_cell (faithful.expression.required fits.1 parts.head) Expression.checked fun _ => rfl
  | conditional condition whenTrue whenFalse =>
      exact .of_cells rfl (by decide) <|
        .cons (faithful.expression.required fits.1 parts.head) <|
        .cons (faithful.expression.required fits.2.1 parts.tail.head) <|
        .cons (faithful.expression.required fits.2.2.1 parts.tail.tail.head) .nil
  | defaultValue targetType =>
      exact .of_cell (faithful.typeRef.required fits.1 parts.head) Expression.defaultValue fun _ => rfl
  | direction passing operand =>
      exact .of_cells rfl (by decide) <|
        .cons (restoresAll_spelled.required fits.1 trivial) <|
        .cons (faithful.expression.required fits.2.1 parts.head) .nil
  | identifier name typeArguments =>
      exact .of_cells rfl (by decide) <|
        .cons (restoresAll_identifier.required fits.1 trivial) <|
        .cons (faithful.typeRef.listed fits.2.1 parts.each) .nil
  | indexer target arguments =>
      exact .of_cells rfl (by decide) <|
        .cons (faithful.expression.required fits.1 parts.head) <|
        .cons (faithful.expression.list fits.2.1 parts.tail.each) .nil
  | invocation target arguments =>
      exact .of_cells rfl (by decide) <|
        .cons (faithful.expression.required fits.1 parts.head) <|
        .cons (faithful.expression.listOrNothing fits.2.1 parts.tail.each) .nil
  | isType operand targetType => exact faithful.expressionAndType fits parts
  | lambda isAsync parameters body =>
      exact .of_cells rfl (by decide) <|
        .cons (restoresAll_bool.withDefault false fits.1 trivial) <|
        .cons (faithful.parameter.listOrNothing fits.2.1 parts.left.each) <|
        .cons (faithful.lambdaBody.required fits.2.2.1 parts.right.head) .nil
  | memberReference target memberName typeArguments => exact faithful.memberAccess fits parts
  | namedArgument name operand => exact faithful.nameAndExpression (by decide) fits parts
  | named name operand => exact faithful.nameAndExpression (by decide) fits parts
  | nullReference => exact .unit _
  | objectCreate createdType arguments explicitParentheses initializer =>
      exact .of_cells rfl (by decide) <|
        .cons (faithful.typeRef.required fits.1 parts.head) <|
        .cons (faithful.expression.listed fits.2.1 parts.tail.left.each) <|
        .cons (restoresAll_bool.withDefault false fits.2.2.1 trivial) <|
        .cons (faithful.arrayInitializer.optional fits.2.2.2.1 parts.tail.right.option) .nil
  | anonymousTypeCreate initializers =>
      exact .of_cell (faithful.expression.list fits.1 parts.each) Expression.anonymousTypeCreate fun _ => rfl
  | parenthesized operand =>
      exact .of_cell (faithful.expression.required fits.1 parts.head) Expression.parenthesized fun _ => rfl
  | pointerReference target memberName typeArguments => exact faithful.memberAccess fits parts
  | literal value raw =>
      exact .of_cells rfl (by decide) <|
        .cons (restoresAll_literal.required fits.1 (exact value .literal)) <|
        .cons (restoresAll_string.optional fits.2.1 fun _ _ => trivial) .nil
  | sizeOf targetType =>
      exact .of_cell (faithful.typeRef.required fits.1 parts.head) Expression.sizeOf fun _ => rfl
  | stackAlloc elementType count =>
      exact .of_cells rfl (by decide) <|
        .cons (faithful.typeRef.required fits.1 parts.head) <|
        .cons (faithful.expression.required fits.2.1 parts.tail.head) .nil
  | thisReference => exact .unit _
  | typeOf targetType =>
      exact .of_cell (faithful.typeRef.required fits.1 parts.head) Expression.typeOf fun _ => rfl
  | typeReference targetType =>
      exact .of_cell (faithful.typeRef.required fits.1 parts.head) Expression.typeReference fun _ => rfl
  | unary operator operand =>
      exact .of_cells rfl (by decide) <|
        .cons (restoresAll_spelled.required fits.1 trivial) <|
        .cons (faithful.expression.required fits.2.1 parts.head) .nil
  | unchecked operand =>
      exact .of_cell (faithful.expression.required fits.1 parts.head) Expression.unchecked fun _ => rfl
  | query found => exact (faithful.queryRows found fits exact).map Expression.query
  | pattern found => exact (faithful.patternRows found fits exact).map Expression.pattern

theorem queryClauseForms :
    RestoresForms levels readers.queryClauseFields QueryClause.form (Node.ExactAs Node.queryClause) := by
  intro clause fits exact
  have parts := exact.all
  cases clause with
  | continuation preceding identifier =>
      exact .of_cells rfl (by decide) <|
        .cons (faithful.query.required fits.1 parts.head) <|
        .cons (restoresAll_identifier.required fits.2.1 trivial) .nil
  | fromIn variableType identifier expression =>
      exact .of_cells rfl (by decide) <|
        .cons (faithful.typeRef.optional fits.1 parts.left.option) <|
        .cons (restoresAll_identifier.required fits.2.1 trivial) <|
        .cons (faithful.expression.required fits.2.2.1 parts.right.head) .nil
  | letBe identifier expression => exact faithful.nameAndExpression (by decide) fits parts
  | whereTrue condition =>
      exact .of_cell (faithful.expression.required fits.1 parts.head) QueryClause.whereTrue fun _ => rfl
  | join variableType joinIdentifier inExpression onExpression equalsExpression intoIdentifier =>
      exact .of_cells rfl (by decide) <|
        .cons (faithful.typeRef.optional fits.1 parts.left.option) <|
        .cons (restoresAll_identifier.required fits.2.1 trivial) <|
        .cons (faithful.expression.required fits.2.2.1 parts.right.head) <|
        .cons (faithful.expression.required fits.2.2.2.1 parts.right.tail.head) <|
        .cons (faithful.expression.required fits.2.2.2.2.1 parts.right.tail.tail.head) <|
        .cons (restoresAll_identifier.optional fits.2.2.2.2.2.1 fun _ _ => trivial) .nil
  | orderBy orderings =>
      exact .of_cell (faithful.queryOrdering.list fits.1 parts.each) QueryClause.orderBy fun _ => rfl
  | select expression =>
      exact .of_cell (faithful.expression.required fits.1 parts.head) QueryClause.select fun _ => rfl
  | groupBy projection key =>
      exact .of_cells rfl (by decide) <|
        .cons (faithful.expression.required fits.1 parts.head) <|
        .cons (faithful.expression.required fits.2.1 parts.tail.head) .nil

theorem statementForms :
    RestoresForms levels readers.statementFields Statement.form (Node.ExactAs Node.ofStatement) := by
  intro found fits exact
  have parts := exact.all
  cases found with
  | block found => exact (faithful.blockRows found fits exact).map Statement.block
  | breaks => exact .unit _
  | checked body => exact .of_cell (faithful.block.required fits.1 parts.head) Statement.checked fun _ => rfl
  | continues => exact .unit _
  | doWhile body condition =>
      exact .of_cells rfl (by decide) <|
        .cons (faithful.statement.required fits.1 parts.head) <|
        .cons (faithful.expression.required fits.2.1 parts.tail.head) .nil
  | empty => exact .unit _
  | expression operand =>
      exact .of_cell (faithful.expression.required fits.1 parts.head) Statement.expression fun _ => rfl
  | fixed variableType declarators body =>
      exact .of_cells rfl (by decide) <|
        .cons (faithful.typeRef.required fits.1 parts.head) <|
        .cons (faithful.variableInitializer.list fits.2.1 parts.tail.left.each) <|
        .cons (faithful.statement.required fits.2.2.1 parts.tail.right.head) .nil
  | foreach variableType variableName inExpression body =>
      exact .of_cells rfl (by decide) <|
        .cons (faithful.typeRef.required fits.1 parts.head) <|
        .cons (restoresAll_identifier.required fits.2.1 trivial) <|
        .cons (faithful.expression.required fits.2.2.1 parts.tail.head) <|
        .cons (faithful.statement.required fits.2.2.2.1 parts.tail.tail.head) .nil
  | forLoop initializers condition iterators body =>
      exact .of_cells rfl (by decide) <|
        .cons (faithful.statement.listOrNothing fits.1 parts.left.left.left.each) <|
        .cons (faithful.expression.optional fits.2.1 parts.left.left.right.option) <|
        .cons (faithful.statement.listOrNothing fits.2.2.1 parts.left.right.each) <|
        .cons (faithful.statement.required fits.2.2.2.1 parts.right.head) .nil
  | goto target => exact .of_cell (restoresAll_identifier.required fits.1 trivial) Statement.goto fun _ => rfl
  | gotoCase target =>
      exact .of_cell (faithful.expression.required fits.1 parts.head) Statement.gotoCase fun _ => rfl
  | gotoDefault => exact .unit _
  | ifElse condition whenTrue whenFalse =>
      exact .of_cells rfl (by decide) <|
        .cons (faithful.expression.required fits.1 parts.left.head) <|
        .cons (faithful.statement.required fits.2.1 parts.left.tail.head) <|
        .cons (faithful.statement.optional fits.2.2.1 parts.right.option) .nil
  | label target =>
      exact .of_cell (restoresAll_identifier.required fits.1 trivial) Statement.label fun _ => rfl
  | lock operand body => exact faithful.expressionAndBody (by decide) fits parts
  | returns operand =>
      exact .of_cell (faithful.expression.optional fits.1 parts.option) Statement.returns fun _ => rfl
  | switch operand sections =>
      exact .of_cells rfl (by decide) <|
        .cons (faithful.expression.required fits.1 parts.head) <|
        .cons (faithful.switchSection.listOrNothing fits.2.1 parts.tail.each) .nil
  | throws operand =>
      exact .of_cell (faithful.expression.optional fits.1 parts.option) Statement.throws fun _ => rfl
  | tryCatch tryBlock catchClauses finallyBlock =>
      exact .of_cells rfl (by decide) <|
        .cons (faithful.block.required fits.1 parts.head) <|
        .cons (faithful.catchClause.listOrNothing fits.2.1 parts.tail.left.each) <|
        .cons (faithful.block.optional fits.2.2.1 parts.tail.right.option) .nil
  | unchecked body =>
      exact .of_cell (faithful.block.required fits.1 parts.head) Statement.unchecked fun _ => rfl
  | unsafeBlock body =>
      exact .of_cell (faithful.block.required fits.1 parts.head) Statement.unsafeBlock fun _ => rfl
  | usingResource resource body =>
      exact .of_cells rfl (by decide) <|
        .cons (faithful.usingResource.required fits.1 parts.head) <|
        .cons (faithful.statement.required fits.2.1 parts.tail.head) .nil
  | localVariables declaration =>
      exact (faithful.variableDeclarationRows declaration fits exact).map Statement.localVariables
  | whileLoop condition body => exact faithful.expressionAndBody (by decide) fits parts
  | yieldBreak => exact .unit _
  | yieldReturn operand =>
      exact .of_cell (faithful.expression.required fits.1 parts.head) Statement.yieldReturn fun _ => rfl
  | comment found => exact (restoresRows_comment found fits trivial).map Statement.comment
  | directive found => exact (restoresRows_directive found fits trivial).map Statement.directive
  | pattern found => exact (faithful.patternRows found fits exact).map Statement.pattern

end Families

end Faithful

end CSharpLayout
