import Mathlib.Data.List.Forall2
import CSharpLayout.Proofs.Identifiers
import CSharpLayout.Proofs.Lexing
import CSharpLayout.Proofs.Nesting

/-! Names that are printed. Every name that is stored in a node is written as an identifier, in the order in
which the names are stored. -/

namespace CSharpLayout

def Identifier.Spells (name : Identifier) (text : String) : Prop := text = name.name ∨ text = "@" ++ name.name

theorem Frames.spells_escaped (frames : Frames) (name : Identifier) : name.Spells (frames.escaped name) := by
  unfold escaped
  split
  · exact .inr rfl
  · exact .inl rfl

namespace Layout

inductive Writes : List Piece → List Identifier → Prop
  | nil : Writes [] []
  | problem (problem : Problem) (rest : List Piece) (names : List Identifier) :
      Writes (.problem problem :: rest) names
  | pass (piece : Piece) {rest : List Piece} {names : List Identifier} :
      Writes rest names → Writes (piece :: rest) names
  | name {name : Identifier} {text : String} {tokenClass : TokenClass} {rest : List Piece}
    {names : List Identifier} :
      name.Spells text → Writes rest names →
        Writes (.event (.identifier text tokenClass) :: rest) (name :: names)
  | child (node : Node) {rest : List Piece} {names : List Identifier} :
      Writes rest names → Writes (.child node :: rest) (node.identifiers false ++ names)

def childNames (pieces : List Piece) : List Identifier :=
  (chosen (held pieces)).flatMap (Node.identifiers false)

@[simp] theorem chosen_nil : chosen [] = [] := rfl

@[simp] theorem chosen_cons (node : Node) (rest : List (Bool × Node)) :
    chosen ((true, node) :: rest) = node :: chosen rest := rfl

@[simp] theorem chosen_shown (nodes : List Node) : chosen (shown nodes) = nodes := by
  rw [shown, chosen_map, if_pos rfl]

namespace Writes

theorem append {left right : List Piece} {names more : List Identifier} (first : Writes left names)
    (second : Writes right more) : Writes (left ++ right) (names ++ more) := by
  induction first with
  | nil => exact second
  | problem problem rest names => exact .problem problem _ _
  | pass piece _ ih => exact .pass piece ih
  | name spells _ ih => exact .name spells ih
  | child node _ ih =>
      rw [List.append_assoc]
      exact .child node ih

theorem children (pieces : List Piece) : Writes pieces (childNames pieces) := by
  induction pieces with
  | nil => exact .nil
  | cons piece rest ih =>
      cases piece with
      | child node => exact .child node ih
      | _ => exact .pass _ ih

theorem nothing (pieces : List Piece) : Writes pieces [] := by
  induction pieces with
  | nil => exact .nil
  | cons piece rest ih => exact .pass piece ih

theorem after {left : List Piece} {names : List Identifier} (first : Writes left names) (right : List Piece) :
    Writes (left ++ right) (names ++ childNames right) := first.append (children right)

theorem identifier (frames : Frames) (name : Identifier) (tokenClass : TokenClass) :
    Writes (identifier frames name tokenClass) [name] := by
  unfold Layout.identifier
  split
  · exact .problem _ _ _
  · exact .name (frames.spells_escaped name) .nil

theorem of_eq {pieces : List Piece} {names names' : List Identifier} (writes : Writes pieces names)
    (same : names = names') : Writes pieces names' := same ▸ writes

theorem between (before : List Piece) (frames : Frames) (name : Identifier) (tokenClass : TokenClass) :
    Writes (before ++ Layout.identifier frames name tokenClass) (childNames before ++ [name]) :=
  (children before).append (identifier frames name tokenClass)

theorem header {body : List Piece} {names : List Identifier} (inside : Writes body names) (policy : Policy)
    (keyword : String) (before within : SpaceSite) :
    Writes (header policy keyword before within body) names := by
  have opened := (children (word keyword ++ spaceIf (policy.spacing before))).append
    ((((children (symbol .openParen "(" ++ spaceIf (policy.spacing within))).append inside).after
      (spaceIf (policy.spacing within))).after (symbol .closeParen ")"))
  exact opened.of_eq (by simp [childNames])

end Writes

section Plans

variable (policy : Policy) (frames : Frames)

theorem writes_of_children {pieces : List Piece} {node : Node} {names : List Identifier}
    (whole : held pieces = node.markedChildren)
    (same : node.visibleChildren.flatMap (Node.identifiers false) = names) : Writes pieces names := by
  refine (Writes.children pieces).of_eq ?_
  rw [childNames, whole, Node.chosen_markedChildren, same]

theorem writes_pattern (placeholder : Pattern) :
    Writes (pattern placeholder) (placeholder.identifiers false) := by
  refine (Writes.children _).of_eq ?_
  rw [childNames, held_pattern, chosen_shown, Pattern.identifiers_embedded]

theorem writes_type (found : TypeRef)
    (whole : held (type policy frames found) = (Node.type found).markedChildren) :
    Writes (type policy frames found) (found.identifiers false) := by
  cases found with
  | simple name typeArguments =>
      refine ((Writes.identifier frames name _).after _).of_eq ?_
      simp [childNames, TypeRef.identifiers]
  | member target isDoubleColon memberName typeArguments =>
      refine ((Writes.between _ frames memberName _).after _).of_eq ?_
      cases isDoubleColon <;> simp [childNames, TypeRef.identifiers]
  | primitive keyword =>
      refine writes_of_children whole ?_
      rw [TypeRef.identifiers]
      rfl
  | composed baseType nullable pointerRank arraySpecifiers =>
      refine writes_of_children whole ?_
      rw [TypeRef.identifiers]
      simp [Node.visibleChildren, Node.children, Node.childrenOfType]
  | pattern placeholder =>
      rw [TypeRef.identifiers]
      exact writes_pattern placeholder

theorem writes_queryClause (clause : QueryClause)
    (whole : held (queryClause policy frames clause) = (Node.queryClause clause).markedChildren) :
    Writes (queryClause policy frames clause) (clause.identifiers false) := by
  cases clause with
  | continuation preceding name =>
      refine (Writes.between _ frames name _).of_eq ?_
      simp [childNames, QueryClause.identifiers]
  | fromIn variableType name operand =>
      refine (((Writes.between _ frames name _).after _).after _).of_eq ?_
      cases variableType <;> simp [childNames, QueryClause.identifiers]
  | letBe name operand =>
      refine (((Writes.between _ frames name _).after _).after _).of_eq ?_
      simp [childNames, QueryClause.identifiers]
  | join variableType name inExpression onExpression equalsExpression into =>
      have listed :=
        ((((((Writes.between (word "join" ++ visitAll (Node.ofType? variableType) ++ space) frames name
        .localVariable).after (spacedWord "in")).after (visit (Node.ofExpression inExpression))).after
        (spacedWord "on")).after (visit (Node.ofExpression onExpression))).after (spacedWord "equals")).after
        (visit (Node.ofExpression equalsExpression))
      cases into with
      | none =>
          refine (listed.append .nil).of_eq ?_
          cases variableType <;> simp [childNames, QueryClause.identifiers]
      | some into =>
          refine (listed.append (Writes.between (spacedWord "into") frames into _)).of_eq ?_
          cases variableType <;> simp [childNames, QueryClause.identifiers]
  | _ =>
      refine writes_of_children whole ?_
      simp [QueryClause.identifiers, Node.visibleChildren, Node.children, Node.childrenOfClause,
        List.flatMap_map]

theorem writes_expression (found : Expression)
    (whole : held (expression policy frames found) = (Node.expression found).markedChildren) :
    Writes (expression policy frames found) (found.identifiers false) := by
  cases found with
  | identifier name typeArguments =>
      refine ((Writes.identifier frames name _).after _).of_eq ?_
      simp [childNames, Expression.identifiers]
  | memberReference target name typeArguments =>
      refine ((Writes.between _ frames name _).after _).of_eq ?_
      simp [childNames, Expression.identifiers]
  | pointerReference target name typeArguments =>
      refine ((Writes.between _ frames name _).after _).of_eq ?_
      simp [childNames, Expression.identifiers]
  | namedArgument name operand =>
      refine ((((Writes.identifier frames name _).after _).after _).after _).of_eq ?_
      simp [childNames, Expression.identifiers]
  | named name operand =>
      refine (((Writes.identifier frames name _).after _).after _).of_eq ?_
      simp [childNames, Expression.identifiers]
  | pattern placeholder =>
      rw [Expression.identifiers]
      exact writes_pattern placeholder
  | anonymousMethod isAsync hasParameterList parameters body =>
      refine writes_of_children whole ?_
      cases hasParameterList <;> simp [Node.visibleChildren, Expression.identifiers]
  | arrayCreate elementType arguments additionalSpecifiers initializer =>
      refine writes_of_children whole ?_
      cases initializer <;>
        simp [Node.visibleChildren, Node.children, Node.childrenOfExpression, Expression.identifiers]
  | objectCreate createdType arguments explicitParentheses initializer =>
      refine writes_of_children whole ?_
      cases initializer <;>
        simp [Node.visibleChildren, Node.children, Node.childrenOfExpression, Expression.identifiers]
  | _ =>
      refine writes_of_children whole ?_
      simp [Node.visibleChildren, Node.children, Node.childrenOfExpression, Expression.identifiers,
        List.flatMap_map, ArrayInitializer.identifiers_eq, Query.identifiers_eq]

theorem writes_statement (found : Statement)
    (whole : held (statement policy frames found) = (Node.statement found).markedChildren) :
    Writes (statement policy frames found) (found.identifiers false) := by
  cases found with
  | foreach variableType variableName inExpression body =>
      have inside := ((Writes.between (visit (Node.ofType variableType) ++ space) frames variableName
        .localVariable).after (spacedWord "in")).after (visit (Node.ofExpression inExpression))
      refine ((inside.header policy "foreach" .beforeForeachParentheses .withinForeachParentheses).after
        _).of_eq ?_
      simp [childNames, Statement.identifiers]
  | goto target =>
      refine ((Writes.between _ frames target _).after _).of_eq ?_
      simp [childNames, Statement.identifiers]
  | label name =>
      refine ((((Writes.identifier frames name _).after _).after _).after _).of_eq ?_
      cases isFollowedByStatement frames <;> simp [childNames, Statement.identifiers]
  | pattern placeholder =>
      rw [Statement.identifiers]
      exact writes_pattern placeholder
  | forLoop initializers condition iterators body =>
      refine writes_of_children whole ?_
      cases condition <;> simp [Node.visibleChildren, Node.children, Node.childrenOfStatement,
        Statement.identifiers]
  | ifElse condition whenTrue whenFalse =>
      refine writes_of_children whole ?_
      cases whenFalse <;> simp [Node.visibleChildren, Node.children, Node.childrenOfStatement,
        Statement.identifiers]
  | returns operand =>
      refine writes_of_children whole ?_
      cases operand <;> simp [Node.visibleChildren, Node.children, Node.childrenOfStatement,
        Statement.identifiers]
  | throws operand =>
      refine writes_of_children whole ?_
      cases operand <;> simp [Node.visibleChildren, Node.children, Node.childrenOfStatement,
        Statement.identifiers]
  | tryCatch tryBlock catchClauses finallyBlock =>
      refine writes_of_children whole ?_
      cases finallyBlock <;>
        simp [Node.visibleChildren, Node.children, Node.childrenOfStatement, Statement.identifiers,
          List.flatMap_map]
  | _ =>
      refine writes_of_children whole ?_
      simp [Node.visibleChildren, Node.children, Node.childrenOfStatement, Statement.identifiers,
        List.flatMap_map, Block.identifiers_eq, VariableDeclaration.identifiers_eq]

theorem writes_catchClause (clause : CatchClause) :
    Writes (catchClause policy frames clause) (clause.identifiers false) := by
  obtain ⟨catchType, variableName, condition, body⟩ := clause
  cases catchType with
  | none =>
      refine (Writes.children _).of_eq ?_
      cases condition <;> simp [childNames, catchClause, CatchClause.identifiers]
  | some type =>
      have caught {named : List Piece} {names : List Identifier} (name : Writes named names) :=
        ((Writes.children (visit (Node.ofType type))).append name).header policy "catch"
          .beforeCatchParentheses
          .withinCatchParentheses
      cases variableName with
      | none =>
          refine (((caught .nil).after _).after _).of_eq ?_
          cases condition <;> simp [childNames, CatchClause.identifiers]
      | some name =>
          refine (((caught (Writes.between space frames name _)).after _).after _).of_eq ?_
          cases condition <;> simp [childNames, CatchClause.identifiers]

theorem writes_parameter (found : Parameter) :
    Writes (parameter policy frames found) (found.identifiers false) := by
  obtain ⟨attributes, modifier, parameterType, name, defaultExpression⟩ := found
  cases name with
  | none =>
      refine (Writes.children _).of_eq ?_
      simp [childNames, parameter, Parameter.identifiers_eq]
  | some name =>
      refine (((Writes.children _).append (Writes.between _ frames name _)).after _).of_eq ?_
      simp [childNames, Parameter.identifiers_eq]

theorem writes_typeParameter (found : TypeParameter) :
    Writes (typeParameter frames found) (found.identifiers false) := by
  refine (Writes.between _ frames found.name _).of_eq ?_
  cases variance : found.variance <;> simp [childNames, TypeParameter.identifiers]

theorem writes_fixedVariable (buffer : FixedVariable) :
    Writes (fixedVariable policy frames buffer) (buffer.identifiers false) := by
  refine ((Writes.identifier frames buffer.name _).after _).of_eq ?_
  cases count : buffer.count <;> simp [childNames, FixedVariable.identifiers, count]

theorem writes_typeDeclaration (declaration : TypeDeclaration)
    (whole : held (typeDeclaration policy frames declaration) =
      shown (Node.typeDeclaration declaration).children) :
    Writes (typeDeclaration policy frames declaration) (declaration.identifiers false) := by
  obtain ⟨rest, shape⟩ : ∃ rest, typeDeclaration policy frames declaration =
      leading declaration.attributes declaration.modifiers ++ word (typeKeyword declaration.kind) ++
        identifier frames declaration.name .type ++ rest :=
    ⟨_, by simp only [typeDeclaration, List.append_assoc]; rfl⟩
  rw [shape] at whole ⊢
  -- The attributes come before the name, so the rest of the plan holds all other children.
  have later : held rest = shown (Node.ofTypeParameters declaration.typeParameters ++
      Node.ofTypes declaration.baseTypes ++ Node.ofConstraints declaration.constraints ++
      declaration.members.map Node.ofTypeMember) := by
    simpa [Node.children] using whole
  refine ((Writes.between _ frames declaration.name _).after rest).of_eq ?_
  simp [childNames, later, TypeDeclaration.identifiers_eq, List.flatMap_map]

/-- A plan without problems writes the names that are stored in its node. -/
theorem writes_plan (node : Node) (whole : held (plan policy frames node) = node.markedChildren) :
    Writes (plan policy frames node) (node.identifiers false) := by
  cases node with
  | type found => exact writes_type policy frames found whole
  | expression found => exact writes_expression policy frames found whole
  | statement found => exact writes_statement policy frames found whole
  | queryClause clause => exact writes_queryClause policy frames clause whole
  | catchClause clause => exact writes_catchClause policy frames clause
  | parameter found => exact writes_parameter policy frames found
  | typeParameter found => exact writes_typeParameter frames found
  | fixedVariable buffer => exact writes_fixedVariable policy frames buffer
  | typeDeclaration declaration => exact writes_typeDeclaration policy frames declaration whole
  | pattern placeholder => exact writes_pattern placeholder
  | documentationReference reference => exact Writes.nothing _
  | usingAlias declaration =>
      refine ((((Writes.between _ frames declaration.name _).after _).after _).after _).of_eq ?_
      rw [Node.identifiers, UsingAlias.identifiers]
      simp [childNames]
  | externAlias declaration =>
      refine ((Writes.between _ frames declaration.name _).after _).of_eq ?_
      rw [Node.identifiers]
      simp [childNames]
  | delegate declaration =>
      refine ((((((Writes.between _ frames declaration.name _).after _).after _).after _).after _).after
        _).of_eq ?_
      rw [Node.identifiers, DelegateDeclaration.identifiers]
      simp [childNames]
  | method declaration =>
      refine ((((((Writes.between _ frames declaration.name _).after _).after _).after _).after _).after
        _).of_eq ?_
      rw [Node.identifiers, MethodDeclaration.identifiers]
      simp [childNames]
  | property declaration =>
      refine ((Writes.between _ frames declaration.name _).after _).of_eq ?_
      rw [Node.identifiers, PropertyDeclaration.identifiers]
      simp [childNames]
  | customEvent declaration =>
      refine ((Writes.between _ frames declaration.name _).after _).of_eq ?_
      rw [Node.identifiers, CustomEventDeclaration.identifiers]
      simp [childNames]
  | enumMember member =>
      refine ((Writes.between _ frames member.name _).after _).of_eq ?_
      rw [Node.identifiers, EnumMember.identifiers]
      simp [childNames]
  | constraint found =>
      refine ((Writes.between _ frames found.typeParameter _).after _).of_eq ?_
      rw [Node.identifiers, Constraint.identifiers]
      simp [childNames]
  | variableInitializer found =>
      refine ((Writes.identifier frames found.name _).after _).of_eq ?_
      rw [Node.identifiers, VariableInitializer.identifiers_eq]
      simp [childNames]
  | attributeSection found =>
      refine writes_of_children whole ?_
      rw [Node.identifiers, AttributeSection.identifiers_eq]
      simp [Node.visibleChildren, Node.children, List.flatMap_map]
  | constructor declaration =>
      refine writes_of_children whole ?_
      rw [Node.identifiers, ConstructorDeclaration.identifiers]
      simp [Node.visibleChildren, Node.children, List.flatMap_map]
  | switchSection found =>
      refine writes_of_children whole ?_
      rw [Node.identifiers, SwitchSection.identifiers_eq]
      simp [Node.visibleChildren, Node.children, List.flatMap_map]
  | _ =>
      refine writes_of_children whole ?_
      rw [Node.identifiers]
      simp [Node.visibleChildren, Node.children, List.flatMap_map, SyntaxTree.identifiers,
        NamespaceDeclaration.identifiers_eq, UsingDeclaration.identifiers, Attribute.identifiers_eq,
        FieldDeclaration.identifiers, FixedFieldDeclaration.identifiers, ConstructorInitializer.identifiers,
        DestructorDeclaration.identifiers, IndexerDeclaration.identifiers, Accessor.identifiers,
        EventDeclaration.identifiers, OperatorDeclaration.identifiers, ArrayInitializer.identifiers_eq,
        Query.identifiers_eq, QueryOrdering.identifiers_eq, Block.identifiers_eq,
        VariableDeclaration.identifiers_eq, CaseLabel.identifiers_eq]

end Plans

end Layout

def Event.identifier? : Event → Option String
  | .identifier text _ => some text
  | _ => none

/-- Names that are written among events, in order. -/
def Written (names : List Identifier) (events : List Event) : Prop :=
  ∃ texts, List.Forall₂ Identifier.Spells names texts ∧ texts.Sublist (events.filterMap Event.identifier?)

namespace Written

theorem nil (events : List Event) : Written [] events := ⟨[], .nil, List.nil_sublist _⟩

theorem append {names more : List Identifier} {left right : List Event} (first : Written names left)
    (second : Written more right) : Written (names ++ more) (left ++ right) := by
  obtain ⟨texts, spelled, among⟩ := first
  obtain ⟨texts', spelled', among'⟩ := second
  refine ⟨texts ++ texts', List.rel_append spelled spelled', ?_⟩
  rw [List.filterMap_append]
  exact among.append among'

theorem after {names : List Identifier} {right : List Event} (written : Written names right)
    (left : List Event) :
    Written names (left ++ right) := (nil left).append written

end Written

namespace Layout

section Steps

variable {policy : Policy} {node : Node} {address : List Nat} {above : Frames}

theorem Writes.written
    (children : ∀ slot, ∀ child ∈ node.children, ∀ atLineStart,
      firstFault? (steps policy child (slot :: address) (⟨node, address⟩ :: above)) = none →
      Written (child.identifiers false)
        (settled atLineStart (steps policy child (slot :: address) (⟨node, address⟩ :: above))))
    {pieces : List Piece} {names : List Identifier} (writes : Writes pieces names) (slot : Nat)
    (taken : (held pieces).map Prod.snd = node.children.drop slot)
    (sound : firstFault? (partSteps policy node address above slot pieces) = none) (atLineStart : Bool) :
    Written names (settled atLineStart (partSteps policy node address above slot pieces)) := by
  -- The induction is on what the pieces write; `taken` keeps the slots in step with the children.
  induction writes generalizing slot atLineStart with
  | nil => exact Written.nil _
  | problem problem rest names =>
      obtain ⟨first, _⟩ := firstFault?_partSteps_cons sound
      simp [pieceSteps] at first
  | pass piece _ ih =>
      obtain ⟨_, others⟩ := firstFault?_partSteps_cons sound
      rw [partSteps_cons, settled_append]
      refine Written.after (ih _ ?_ others _) _
      cases piece with
      | child found =>
          obtain ⟨_, _, later⟩ := drop_eq_cons taken
          exact later
      | hidden found =>
          obtain ⟨_, _, later⟩ := drop_eq_cons taken
          exact later
      | _ => exact taken
  | @name name text tokenClass _ _ spells _ ih =>
      obtain ⟨_, others⟩ := firstFault?_partSteps_cons sound
      have first : Written [name] [.identifier text tokenClass] :=
        ⟨[text], .cons spells .nil, List.Sublist.refl _⟩
      rw [partSteps_cons, settled_append]
      exact first.append (ih _ taken others _)
  | child found _ ih =>
      obtain ⟨first, others⟩ := firstFault?_partSteps_cons sound
      obtain ⟨present, rfl, later⟩ := drop_eq_cons taken
      rw [partSteps_cons, settled_append]
      simp only [pieceSteps, if_pos present] at first ⊢
      exact (children slot _ (List.getElem_mem present) atLineStart first).append (ih _ later others _)

/-- A node that is printed without a fault writes its names. -/
theorem steps_written (sound : firstFault? (steps policy node address above) = none) (atLineStart : Bool) :
    Written (node.identifiers false) (settled atLineStart (steps policy node address above)) := by
  induction node, address, above using steps_induct generalizing atLineStart with
  | visit node address above ih =>
      rw [firstFault?_steps] at sound
      have body := (writes_plan policy (⟨node, address⟩ :: above) node (held_of_sound sound)).written
        (fun slot child member atLineStart sound => ih slot child member sound atLineStart) 0
          (taken_of_sound sound)
        sound atLineStart
      rw [settled_steps, ← List.append_nil (node.identifiers false), ← List.singleton_append]
      exact (body.append (Written.nil _)).after [.enter node]

end Steps

end Layout

/-- In a file that can be printed, every name is written as an identifier, with or without an `@` before it,
and the names are written in the order in which they are stored. -/
theorem names_are_written {policy : Policy} {tree : SyntaxTree} {text : String}
    (printed : print policy tree = .ok text) :
    ∃ found, events policy (.syntaxTree tree) = .ok found ∧ Written (tree.identifiers false) found := by
  obtain ⟨found, run, _⟩ := print_events printed
  obtain ⟨sound, rfl⟩ := events_eq_ok run
  exact ⟨_, run, Layout.steps_written sound true⟩

def catching (named : Bool) : SyntaxTree where
  members := [.attributeSection ⟨none, [⟨.simple ⟨"A", false, none⟩ [],
    [.anonymousMethod false named [⟨[], .plain, none, some ⟨"x", false, none⟩, none⟩]
      ⟨[.tryCatch ⟨[]⟩
        [⟨if named then some (.simple ⟨"E", false, none⟩ []) else none, some ⟨"e", false, none⟩, none,
        ⟨[]⟩⟩] none]⟩],
    false⟩]⟩]

theorem caught_names_are_written :
    print Policy.kr (catching true) =
        .ok "[A(delegate(x) \x7b\n\ttry \x7b\n\t\x7d\n\tcatch (E e) \x7b\n\t\x7d\n\x7d)]\n" ∧
      (catching true).identifiers false =
        [⟨"A", false, none⟩, ⟨"x", false, none⟩, ⟨"E", false, none⟩, ⟨"e", false, none⟩] ∧
      ∃ found, events Policy.kr (.syntaxTree (catching true)) = .ok found ∧
        Written ((catching true).identifiers false) found := by
  have printed : print Policy.kr (catching true) =
      .ok "[A(delegate(x) \x7b\n\ttry \x7b\n\t\x7d\n\tcatch (E e) \x7b\n\t\x7d\n\x7d)]\n" := by decide +kernel
  exact ⟨printed, by decide +kernel, names_are_written printed⟩

/-- Without a parameter list and a type, neither the parameter nor the exception is written. -/
theorem unlisted_names_are_not_written :
    print Policy.kr (catching false) =
        .ok "[A(delegate \x7b\n\ttry \x7b\n\t\x7d\n\tcatch \x7b\n\t\x7d\n\x7d)]\n" ∧
      (catching false).identifiers true = [⟨"A", false, none⟩, ⟨"x", false, none⟩, ⟨"e", false, none⟩] ∧
      ∃ found, events Policy.kr (.syntaxTree (catching false)) = .ok found ∧
        ∀ text ∈ found.filterMap Event.identifier?,
          ¬Identifier.Spells ⟨"x", false, none⟩ text ∧ ¬Identifier.Spells ⟨"e", false, none⟩ text := by
  refine ⟨by decide +kernel, by decide +kernel, ?_⟩
  have only : (events Policy.kr (.syntaxTree (catching false))).map (List.filterMap Event.identifier?) =
      .ok ["A"] := by
    decide +kernel
  cases run : events Policy.kr (.syntaxTree (catching false)) with
  | error error =>
      rw [run] at only
      cases only
  | ok found =>
      rw [run] at only
      have texts : found.filterMap Event.identifier? = ["A"] := Except.ok.inj only
      refine ⟨found, rfl, fun text member => ?_⟩
      rw [texts, List.mem_singleton] at member
      subst member
      simp [Identifier.Spells]

end CSharpLayout
