import CSharpLayout.Node.Fragment
import CSharpLayout.Proofs.Nesting
import CSharpLayout.Proofs.PolicyFreedom
import CSharpLayout.Proofs.Problems

/-! Well-formed trees. Every name that is written has characters, every list that needs an item has one, and
what stands in a body or a header belongs there; a node can be printed exactly if this holds of it and of
all nodes that are printed below it. -/

namespace CSharpLayout

namespace Node

/-- Choosing a view for what the node shows gives the node again. -/
def IsOwnView : Node → Prop
  | .type found => ofType found = .type found
  | .expression found => ofExpression found = .expression found
  | .statement found => ofStatement found = .statement found
  | _ => True

def nameWithin (parent : Option Node) (own : Identifier) : Identifier :=
  match parent with
  | some (.typeDeclaration declaration) => declaration.name
  | _ => own

def namesOfType : TypeRef → List Identifier
  | .simple name _ => [name]
  | .member _ _ name _ => [name]
  | _ => []

def namesOfExpression : Expression → List Identifier
  | .identifier name _ => [name]
  | .memberReference _ name _ => [name]
  | .pointerReference _ name _ => [name]
  | .namedArgument name _ => [name]
  | .named name _ => [name]
  | _ => []

def namesOfClause : QueryClause → List Identifier
  | .continuation _ name => [name]
  | .fromIn _ name _ => [name]
  | .letBe name _ => [name]
  | .join _ name _ _ _ into => name :: into.toList
  | _ => []

def namesOfStatement : Statement → List Identifier
  | .foreach _ name _ _ => [name]
  | .goto name => [name]
  | .label name => [name]
  | _ => []

def names (parent : Option Node) : Node → List Identifier
  | .usingAlias declaration => [declaration.name]
  | .externAlias declaration => [declaration.name]
  | .typeDeclaration declaration => [declaration.name]
  | .delegate declaration => [declaration.name]
  | .fixedVariable buffer => [buffer.name]
  | .method declaration => [declaration.name]
  | .constructor declaration => [nameWithin parent declaration.name]
  | .destructor declaration => [nameWithin parent declaration.name]
  | .property declaration => [declaration.name]
  | .customEvent declaration => [declaration.name]
  | .enumMember member => [member.name]
  | .parameter found => found.name.toList
  | .typeParameter found => [found.name]
  | .constraint found => [found.typeParameter]
  | .variableInitializer found => [found.name]
  | .documentationReference reference =>
      match reference.symbolKind with
      | .typeDefinition => []
      | .indexer => []
      | .operator => []
      | _ => reference.memberName.toList
  | .type found => namesOfType found
  | .expression found => namesOfExpression found
  | .queryClause clause => namesOfClause clause
  | .statement found => namesOfStatement found
  | .catchClause clause => if clause.catchType.isSome then clause.variableName.toList else []
  | _ => []

def RefersToSymbol (reference : DocumentationReference) : Prop :=
  match reference.symbolKind with
  | .typeDefinition => reference.declaringType ≠ none
  | .indexer => True
  | .operator => ∃ operator, reference.operator = some operator ∧
      (operator = .implicit ∨ operator = .explicit → reference.conversionReturnType ≠ none)
  | _ => reference.memberName ≠ none

def Regular (parent : Option Node) : Node → Prop
  | .field declaration => declaration.declarators ≠ []
  | .fixedField declaration => declaration.declarators ≠ []
  | .event declaration => declaration.declarators ≠ []
  | .variableDeclaration declaration => declaration.declarators ≠ []
  | .statement (.fixed _ declarators _) => declarators ≠ []
  | .statement (.forLoop initializers _ iterators _) => ∀ part ∈ initializers ++ iterators,
      (∃ found, part = .expression found) ∨ ∃ declaration, part = .localVariables declaration
  | .switchSection found => found.labels ≠ []
  | .query found => found.clauses ≠ []
  | .arraySpecifier specifier => 1 ≤ specifier.dimensions
  | .typeDeclaration declaration =>
      if declaration.kind = .enumType then ∀ member ∈ declaration.members,
        (∃ found, member = .enumMember found) ∨ (∃ found, member = .comment found) ∨
          ∃ found, member = .directive found
      else ∀ member ∈ declaration.members, ∀ found, member ≠ .enumMember found
  | .accessor found =>
      match parent with
      | some (.property _) => found.kind = .get ∨ found.kind = .set
      | some (.indexer _) => found.kind = .get ∨ found.kind = .set
      | some (.customEvent _) => found.kind = .add ∨ found.kind = .remove
      | _ => True
  | .documentationReference reference => RefersToSymbol reference
  | _ => True

/-- Nothing is wrong with the node itself. -/
structure Sound (parent : Option Node) (node : Node) : Prop where
  named : ∀ name ∈ node.names parent, name.name ≠ ""
  regular : node.Regular parent

/-- Nothing is wrong with the node or with any node that is printed below it. -/
inductive WellFormed : Option Node → Node → Prop
  | intro {parent : Option Node} {node : Node} : node.Sound parent →
      (∀ child ∈ node.visibleChildren, WellFormed (some node) child) → WellFormed parent node

theorem wellFormed_iff {parent : Option Node} {node : Node} :
    WellFormed parent node ↔
      node.Sound parent ∧ ∀ child ∈ node.visibleChildren, WellFormed (some node) child := by
  constructor
  · rintro ⟨sound, below⟩
    exact ⟨sound, below⟩
  · rintro ⟨sound, below⟩
    exact .intro sound below

theorem sound_iff {parent : Option Node} {node : Node} :
    node.Sound parent ↔ (∀ name ∈ node.names parent, name.name ≠ "") ∧ node.Regular parent :=
  ⟨fun sound => ⟨sound.named, sound.regular⟩, fun both => ⟨both.1, both.2⟩⟩

section Views

theorem ownView_of_plain {node : Node} (noType : ∀ found, node ≠ .type found)
    (noExpression : ∀ found, node ≠ .expression found) (noStatement : ∀ found, node ≠ .statement found) :
    node.IsOwnView := by
  cases node with
  | type found => exact absurd rfl (noType found)
  | expression found => exact absurd rfl (noExpression found)
  | statement found => exact absurd rfl (noStatement found)
  | _ => trivial

@[simp] theorem ownView_ofType (found : TypeRef) : (ofType found).IsOwnView := by
  cases found <;> simp [ofType, IsOwnView]

@[simp] theorem ownView_ofExpression (found : Expression) : (ofExpression found).IsOwnView := by
  cases found <;> simp [ofExpression, IsOwnView]

@[simp] theorem ownView_ofStatement (found : Statement) : (ofStatement found).IsOwnView := by
  cases found <;> simp [ofStatement, IsOwnView]

@[simp] theorem ownView_ofNamespaceMember (member : NamespaceMember) :
    (ofNamespaceMember member).IsOwnView := by
  cases member <;> trivial

@[simp] theorem ownView_ofTypeMember (member : TypeMember) : (ofTypeMember member).IsOwnView := by
  cases member <;> trivial

@[simp] theorem ownView_ofUsingResource (resource : UsingResource) :
    (ofUsingResource resource).IsOwnView := by
  cases resource with
  | declaration declaration => trivial
  | expression found => exact ownView_ofExpression found

@[simp] theorem ownView_ofLambdaBody (body : LambdaBody) : (ofLambdaBody body).IsOwnView := by
  cases body with
  | expression found => exact ownView_ofExpression found
  | block found => trivial

def OwnViews (nodes : List Node) : Prop := ∀ node ∈ nodes, node.IsOwnView

@[simp] theorem ownViews_nil : OwnViews [] := by
  intro node member
  cases member

@[simp] theorem ownViews_cons {node : Node} {rest : List Node} :
    OwnViews (node :: rest) ↔ node.IsOwnView ∧ OwnViews rest :=
  List.forall_mem_cons

@[simp] theorem ownViews_append {left right : List Node} :
    OwnViews (left ++ right) ↔ OwnViews left ∧ OwnViews right :=
  List.forall_mem_append

@[simp] theorem ownViews_map {α : Type} {values : List α} {view : α → Node} :
    OwnViews (values.map view) ↔ ∀ value ∈ values, (view value).IsOwnView :=
  List.forall_mem_map

mutual

theorem ownViews_embedded (found : Pattern) : OwnViews found.embedded := by
  cases found with
  | any groupName => exact ownViews_nil
  | backreference groupName => exact ownViews_nil
  | identifierBackreference groupName => exact ownViews_nil
  | choice alternatives => exact ownViews_items alternatives
  | named groupName child => exact ownViews_item child
  | repeated min max child => exact ownViews_item child
  | optional child => exact ownViews_item child

theorem ownViews_item (item : PatternItem) : OwnViews item.embedded := by
  cases item with
  | pattern nested => exact ownViews_embedded nested
  | type found => simp [PatternItem.embedded]
  | expression found => simp [PatternItem.embedded]
  | statement found => simp [PatternItem.embedded]
  | value literal => exact ownViews_nil

theorem ownViews_items (items : List PatternItem) : OwnViews (embeddedInItems items) := by
  cases items with
  | nil => exact ownViews_nil
  | cons item rest => exact ownViews_append.mpr ⟨ownViews_item item, ownViews_items rest⟩

end

theorem ownViews_childrenOfType (found : TypeRef) : OwnViews (childrenOfType found) := by
  cases found <;> simp [childrenOfType, ofTypes, ofSpecifiers, ownView_of_plain]

theorem ownViews_childrenOfExpression (found : Expression) : OwnViews (childrenOfExpression found) := by
  cases found <;>
    simp [childrenOfExpression, ofTypes, ofExpressions, ofParameters, ofSpecifiers, ownView_of_plain]

theorem ownViews_childrenOfClause (clause : QueryClause) : OwnViews (childrenOfClause clause) := by
  cases clause <;> simp [childrenOfClause, ofType?, ownView_of_plain]

theorem ownViews_childrenOfStatement (found : Statement) : OwnViews (childrenOfStatement found) := by
  cases found <;>
    simp [childrenOfStatement, ofStatements, ofVariables, ofExpression?, ofBlock?, ownView_of_plain]

theorem ownViews_children (node : Node) : OwnViews node.children := by
  cases node with
  | type found => exact ownViews_childrenOfType found
  | expression found => exact ownViews_childrenOfExpression found
  | queryClause clause => exact ownViews_childrenOfClause clause
  | statement found => exact ownViews_childrenOfStatement found
  | pattern found => exact ownViews_embedded found
  | documentationReference reference =>
      by_cases operator : reference.symbolKind = .operator <;>
        simp [children, operator, ofType?, ofTypes, ofParameters, ownView_of_plain]
  | _ =>
      simp [children, ofTypes, ofExpressions, ofStatements, ofAttributes, ofParameters, ofTypeParameters,
        ofConstraints, ofVariables, ofAccessors, ofType?, ofExpression?, ofBlock?, ownView_of_plain]

theorem embeds_of_ownView {node : Node} (own : node.IsOwnView) : Layout.embeds node = [] := by
  cases node with
  | type found =>
      cases found with
      | pattern placeholder => simp [IsOwnView, ofType] at own
      | _ => rfl
  | expression found =>
      cases found with
      | pattern placeholder => simp [IsOwnView, ofExpression] at own
      | _ => rfl
  | statement found =>
      cases found with
      | pattern placeholder => simp [IsOwnView, ofStatement] at own
      | _ => rfl
  | _ => rfl

end Views

end Node

theorem FragmentType.ownView_node (type : FragmentType) (value : type.Carrier) :
    (type.node value).IsOwnView := by
  cases type with
  | typeRef => exact Node.ownView_ofType value
  | expression => exact Node.ownView_ofExpression value
  | statement => exact Node.ownView_ofStatement value
  | namespaceMember => exact Node.ownView_ofNamespaceMember value
  | typeMember => exact Node.ownView_ofTypeMember value
  | usingResource => exact Node.ownView_ofUsingResource value
  | lambdaBody => exact Node.ownView_ofLambdaBody value
  | _ => trivial

namespace Layout

theorem flawed_type (policy : Policy) (frames : Frames) (found : TypeRef) :
    flawed (type policy frames found) = false ↔ ∀ name ∈ Node.namesOfType found, name.name ≠ "" := by
  cases found with
  | composed baseType nullable pointerRank arraySpecifiers =>
      cases nullable <;> simp [type, Node.namesOfType, flawed_symbols]
  | member target isDoubleColon memberName typeArguments =>
      cases isDoubleColon <;> simp [type, Node.namesOfType]
  | _ => simp [type, Node.namesOfType]

theorem flawed_queryClause (policy : Policy) (frames : Frames) (clause : QueryClause) :
    flawed (queryClause policy frames clause) = false ↔ ∀ name ∈ Node.namesOfClause clause,
      name.name ≠ "" := by
  cases clause with
  | join variableType name inExpression onExpression equalsExpression intoName =>
      cases intoName <;> simp [queryClause, Node.namesOfClause]
  | _ => simp [queryClause, Node.namesOfClause]

/-- A query among the expressions has a view of its own, and so have the other expressions that need more than
names. -/
theorem flawed_expression (policy : Policy) (frames : Frames) (found : Expression)
    (own : (Node.expression found).IsOwnView) :
    flawed (expression policy frames found) = false ↔ ∀ name ∈ Node.namesOfExpression found,
      name.name ≠ "" := by
  cases found with
  | query found => simp [Node.IsOwnView, Node.ofExpression] at own
  | anonymousMethod isAsync hasParameterList parameters body =>
      cases isAsync <;> cases hasParameterList <;> simp [expression, Node.namesOfExpression]
  | _ => simp [expression, Node.namesOfExpression, apply_ite flawed]

theorem flawed_statement (policy : Policy) (frames : Frames) (found : Statement)
    (own : (Node.statement found).IsOwnView) :
    flawed (statement policy frames found) = false ↔ (Node.statement found).Sound frames.parent? := by
  rw [Node.sound_iff]
  cases found with
  | localVariables declaration => simp [Node.IsOwnView, Node.ofStatement] at own
  | forLoop initializers condition iterators body =>
      have fits (part : Statement) : fitsHeader part = true ↔
          (∃ found, part = .expression found) ∨ ∃ declaration, part = .localVariables declaration := by
        cases part <;> simp [fitsHeader]
      simp [statement, flawed_forLoop, Node.names, Node.namesOfStatement, Node.Regular, fits,
        or_imp, forall_and]
  | tryCatch tryBlock catchClauses finallyBlock =>
      cases finallyBlock <;> simp [statement, Node.names, Node.namesOfStatement, Node.Regular]
  | fixed variableType declarators body =>
      cases declarators <;> simp [statement, Node.names, Node.namesOfStatement, Node.Regular]
  | _ => simp [statement, Node.names, Node.namesOfStatement, Node.Regular, apply_ite flawed]

theorem flawed_caseLabel (label : CaseLabel) : flawed (caseLabel label) = false := by
  cases found : label.expression <;> simp [caseLabel, found]

theorem flawed_catchClause (policy : Policy) (frames : Frames) (clause : CatchClause) :
    flawed (catchClause policy frames clause) = false ↔
      (Node.catchClause clause).Sound frames.parent? := by
  obtain ⟨catchType, variableName, condition, body⟩ := clause
  cases catchType <;> cases condition <;> cases variableName <;>
    simp [catchClause, Node.sound_iff, Node.names, Node.Regular]

theorem flawed_typeDeclaration (policy : Policy) (frames : Frames) (declaration : TypeDeclaration) :
    flawed (typeDeclaration policy frames declaration) = false ↔
      (Node.typeDeclaration declaration).Sound frames.parent? := by
  have trivia (member : TypeMember) : (isEnumMember member = false → isTrivia member = true) ↔
      (∃ found, member = .enumMember found) ∨ (∃ found, member = .comment found) ∨
        ∃ found, member = .directive found := by
    cases member <;> simp [isEnumMember, isTrivia]
  have plain (member : TypeMember) : isEnumMember member = false ↔ ∀ found, member ≠ .enumMember found := by
    cases member <;> simp [isEnumMember]
  by_cases kind : declaration.kind = .enumType
  · simp [typeDeclaration, kind, apply_ite flawed, flawed_enumBody, Node.sound_iff, Node.names,
      Node.Regular, trivia]
  · simp [typeDeclaration, kind, apply_ite flawed, flawed_typeBody, Node.sound_iff, Node.names,
      Node.Regular, plain]

theorem flawed_referencedSymbol (frames : Frames) (reference : DocumentationReference) :
    flawed (referencedSymbol frames reference) = false ↔
      (Node.documentationReference reference).Sound frames.parent? := by
  rw [Node.sound_iff]
  cases kind : reference.symbolKind with
  | typeDefinition =>
      cases none : reference.declaringType <;>
        simp [referencedSymbol, kind, none, Node.names, Node.Regular, Node.RefersToSymbol]
  | indexer => simp [referencedSymbol, kind, Node.names, Node.Regular, Node.RefersToSymbol]
  | operator =>
      have conversion (operator : OverloadableOperator) :
          operator.isConversion = true ↔ operator = .implicit ∨ operator = .explicit := by
        cases operator <;> simp [OverloadableOperator.isConversion]
      cases found : reference.operator <;>
        simp [referencedSymbol, kind, found, flawed_referencedOperator, Node.names, Node.Regular,
          Node.RefersToSymbol, ← conversion, Option.isSome_iff_ne_none]
  | _ =>
      cases name : reference.memberName <;>
        simp [referencedSymbol, kind, name, Node.names, Node.Regular, Node.RefersToSymbol]

theorem flawed_documentationReference (policy : Policy) (frames : Frames)
    (reference : DocumentationReference) :
    flawed (documentationReference policy frames reference) = flawed (referencedSymbol frames reference) := by
  simp [documentationReference, apply_ite flawed]

theorem flawed_accessor (frames : Frames) (found : Accessor) :
    flawed (accessor frames found) = false ↔ (Node.accessor found).Sound frames.parent? := by
  have fits : accessorFits frames found.kind = true ↔ (Node.accessor found).Regular frames.parent? := by
    unfold accessorFits Node.Regular
    split <;> simp_all
  rw [Node.sound_iff, ← fits]
  cases suits : accessorFits frames found.kind <;> simp [accessor, suits, Node.names]

theorem enclosingName_eq (frames : Frames) (own : Identifier) :
    enclosingName frames own = Node.nameWithin frames.parent? own := by
  unfold enclosingName Node.nameWithin
  rfl

/-- A plan holds no problem exactly if nothing is wrong with its node. -/
theorem flawed_plan (policy : Policy) (frames : Frames) {node : Node} (own : node.IsOwnView) :
    flawed (plan policy frames node) = false ↔ node.Sound frames.parent? := by
  cases node with
  | typeDeclaration declaration => exact flawed_typeDeclaration policy frames declaration
  | accessor found => exact flawed_accessor frames found
  | documentationReference reference =>
      rw [plan, flawed_documentationReference]
      exact flawed_referencedSymbol frames reference
  | type found => simp [plan, flawed_type, Node.sound_iff, Node.names, Node.Regular]
  | expression found => simp [plan, flawed_expression _ _ _ own, Node.sound_iff, Node.names, Node.Regular]
  | queryClause clause => simp [plan, flawed_queryClause, Node.sound_iff, Node.names, Node.Regular]
  | statement found => exact flawed_statement policy frames found own
  | catchClause clause => exact flawed_catchClause policy frames clause
  | field declaration =>
      cases none : declaration.declarators <;>
        simp [plan, field, none, Node.sound_iff, Node.names, Node.Regular]
  | fixedField declaration =>
      cases none : declaration.declarators <;>
        simp [plan, fixedField, none, Node.sound_iff, Node.names, Node.Regular]
  | event declaration =>
      cases none : declaration.declarators <;>
        simp [plan, event, none, Node.sound_iff, Node.names, Node.Regular]
  | fixedVariable buffer =>
      cases count : buffer.count <;>
        simp [plan, fixedVariable, count, Node.sound_iff, Node.names, Node.Regular]
  | constructor declaration =>
      cases initializer : declaration.initializer <;>
        simp [plan, constructor, initializer, Node.sound_iff, Node.names, Node.Regular, enclosingName_eq]
  | parameter found =>
      cases name : found.name <;> simp [plan, parameter, name, Node.sound_iff, Node.names, Node.Regular]
  | typeParameter found =>
      cases variance : found.variance <;>
        simp [plan, typeParameter, variance, Node.sound_iff, Node.names, Node.Regular]
  | arraySpecifier specifier =>
      have positive : specifier.dimensions ≠ 0 ↔ 1 ≤ specifier.dimensions := by
        simp [← UInt32.toNat_inj, UInt32.le_iff_toNat_le, Nat.one_le_iff_ne_zero]
      simp [plan, flawed_arraySpecifier, Node.sound_iff, Node.names, Node.Regular, ← positive]
  | _ =>
      simp [plan, namespaceDeclaration, usingDeclaration, usingAlias, externAlias, delegate, method,
        constructorInitializer, destructor, property, indexer, customEvent, enumMember, constraint,
        variableInitializer, flawed_attributeSection, flawed_attributeUse, flawed_operator,
        flawed_queryOrdering, flawed_switchSection, flawed_caseLabel, enclosingName_eq,
        Node.sound_iff, Node.names, Node.Regular]

section Steps

variable {policy : Policy} {node : Node} {address : List Nat} {above : Frames}

theorem partSteps_sound_iff {fine : Node → Prop}
    (children : ∀ slot, ∀ child ∈ node.children,
      (firstFault? (steps policy child (slot :: address) (⟨node, address⟩ :: above)) = none ↔ fine child))
    {pieces : List Piece} (slot : Nat) (taken : (held pieces).map Prod.snd = node.children.drop slot)
    (clean : flawed pieces = false) :
    firstFault? (partSteps policy node address above slot pieces) = none ↔ ∀ child ∈ chosen (held pieces),
      fine child := by
  induction pieces generalizing slot with
  | nil => simp [partSteps_nil, firstFault?, chosen]
  | cons piece rest ih =>
      rw [partSteps_cons, firstFault?_append, Option.or_eq_none_iff]
      cases piece with
      | event event => exact (and_iff_right rfl).trans (ih slot taken clean)
      | gap => exact (and_iff_right rfl).trans (ih slot taken clean)
      | freshLine => exact (and_iff_right rfl).trans (ih slot taken clean)
      | problem problem => exact absurd clean (by simp [flawed, Piece.isProblem])
      | hidden found =>
          obtain ⟨_, _, later⟩ := drop_eq_cons taken
          exact (and_iff_right rfl).trans (ih (slot + 1) later clean)
      | child found =>
          obtain ⟨present, rfl, later⟩ := drop_eq_cons taken
          have first : firstFault?
              (pieceSteps policy node address above slot (.child node.children[slot])) = none ↔
              fine node.children[slot] := by
            rw [pieceSteps, if_pos present]
            exact children slot _ (List.getElem_mem present)
          exact (and_congr first (ih (slot + 1) later clean)).trans List.forall_mem_cons.symm

/-- Printing a node meets no fault exactly if the node is well formed below its parent. -/
theorem steps_sound_iff (own : node.IsOwnView) :
    firstFault? (steps policy node address above) = none ↔
      Node.WellFormed (above.head?.map Frame.node) node := by
  induction node, address, above using steps_induct with
  | visit node address above ih =>
      have sound := flawed_plan policy (⟨node, address⟩ :: above) own
      have parent : Frames.parent? (⟨node, address⟩ :: above) = above.head?.map Frame.node := by
        cases above <;> rfl
      rw [firstFault?_steps, Node.wellFormed_iff, ← parent, ← sound]
      cases flaw : flawed (plan policy (⟨node, address⟩ :: above) node) with
      | true =>
          refine iff_of_false (fun carried => ?_) (by simp)
          rw [flawed_of_sound carried] at flaw
          cases flaw
      | false =>
          have taken : held (plan policy (⟨node, address⟩ :: above) node) = node.markedChildren :=
            held_plan_of_plain policy _ (Node.embeds_of_ownView own) fun _ => flaw
          have visited := partSteps_sound_iff
            (fun slot child member => ih slot child member (Node.ownViews_children node child member))
            0 (by rw [taken, Node.markedChildren_snd]; rfl) flaw
          rw [visited, taken, Node.chosen_markedChildren, and_iff_right rfl]
          rfl

end Steps

end Layout

/-- A page of text refuses nothing, so printing fails only at a fault. -/
theorem printNode_eq (policy : Policy) (node : Node) :
    printNode policy node =
      match firstFault? (Layout.trace policy node) with
      | some fault => .error fault.toError
      | none => .ok (Page.after policy (settled true (Layout.trace policy node))).destination := by
  have run := events_eq policy node
  cases found : firstFault? (Layout.trace policy node) with
  | some fault =>
      rw [found] at run
      exact printNode_of_error run
  | none =>
      rw [found] at run
      exact printNode_of_events run

/-- What stands in a fragment can be printed exactly if it is well formed, whatever the policy. -/
theorem printable_iff_wellFormed (policy : Policy) (type : FragmentType) (value : type.Carrier) :
    (∃ text, printNode policy (type.node value) = .ok text) ↔ Node.WellFormed none (type.node value) := by
  have sound : firstFault? (Layout.trace policy (type.node value)) = none ↔
      Node.WellFormed none (type.node value) :=
    Layout.steps_sound_iff (type.ownView_node value)
  rw [printNode_eq, ← sound]
  cases firstFault? (Layout.trace policy (type.node value)) with
  | some fault => simp
  | none => simp

end CSharpLayout
