import Mathlib.Data.List.Chain
import CSharpLayout.Proofs.Traversal
import CSharpLayout.Proofs.WellFormed

/-! How printing fails. A plan that stops at a problem has asked for children of its node only, so the nodes
that are open when printing stops form a chain from the printed node down to a node with which something is
wrong. -/

namespace CSharpLayout

def Frame.Within (inner outer : Frame) : Prop := inner.node ∈ outer.node.children

namespace Layout

def carriedOut (pieces : List Piece) : List Piece := pieces.takeWhile fun piece => !piece.isProblem

section Pieces

theorem held_carriedOut_isPrefix (pieces : List Piece) : held (carriedOut pieces) <+: held pieces := by
  have start : carriedOut pieces <+: pieces := List.takeWhile_prefix _
  exact start.filterMap _

theorem carriedOut_cons {piece : Piece} (fine : piece.isProblem = false) (rest : List Piece) :
    carriedOut (piece :: rest) = piece :: carriedOut rest := by
  simp [carriedOut, fine]

theorem carriedOut_append_of_clean {left : List Piece} (clean : flawed left = false) (right : List Piece) :
    carriedOut (left ++ right) = left ++ carriedOut right := by
  refine List.takeWhile_append_of_pos fun piece member => ?_
  have fine : piece.isProblem = false := Bool.eq_false_iff.mpr (List.any_eq_false.mp clean piece member)
  rw [fine]
  rfl

theorem carriedOut_append_of_flawed {left : List Piece} (stopped : flawed left = true) (right : List Piece) :
    carriedOut (left ++ right) = carriedOut left := by
  induction left with
  | nil => cases stopped
  | cons piece rest ih =>
      cases fine : piece.isProblem with
      | true => simp [carriedOut, fine]
      | false =>
          have later : flawed rest = true := by simpa [flawed, fine] using stopped
          rw [List.cons_append, carriedOut_cons fine, carriedOut_cons fine, ih later]

theorem held_carriedOut_append {left right : List Piece} {taken : List (Bool × Node)}
    (inside : held (carriedOut right) <+: taken) :
    held (carriedOut (left ++ right)) <+: held left ++ taken := by
  cases stopped : flawed left with
  | true =>
      rw [carriedOut_append_of_flawed stopped]
      exact (held_carriedOut_isPrefix left).trans (List.prefix_append _ _)
  | false =>
      rw [carriedOut_append_of_clean stopped, held_append]
      exact (List.prefix_append_right_inj _).mpr inside

theorem held_carriedOut_followed {left right : List Piece} {taken : List (Bool × Node)}
    (before : held (carriedOut left) <+: taken) (none : held right = []) :
    held (carriedOut (left ++ right)) <+: taken := by
  cases stopped : flawed left with
  | true =>
      rw [carriedOut_append_of_flawed stopped]
      exact before
  | false =>
      have nothing : held (carriedOut right) = [] :=
        List.prefix_nil.mp (none ▸ held_carriedOut_isPrefix right)
      have all := carriedOut_append_of_clean stopped []
      rw [List.append_nil] at all
      rw [carriedOut_append_of_clean stopped, held_append, nothing, List.append_nil, ← List.append_nil left]
      rwa [all] at before

theorem held_carriedOut_braced {style : BraceStyle} {body : List Piece} {taken : List (Bool × Node)}
    (inside : held (carriedOut body) <+: taken) : held (carriedOut (braced style body)) <+: taken := by
  have opening : held (openBrace style) = [] := by cases style <;> rfl
  have closing : held (closeBrace style) = [] := by cases style <;> rfl
  refine held_carriedOut_followed ?_ closing
  have opened : held (carriedOut (openBrace style ++ body)) <+: held (openBrace style) ++ taken :=
    held_carriedOut_append inside
  rwa [opening, List.nil_append] at opened

theorem held_carriedOut_guarded {missing : Bool} {problem : Problem} {pieces : List Piece}
    {taken : List (Bool × Node)} (clean : missing = false → flawed pieces = false)
    (whole : flawed (if missing then fault problem else pieces) = false →
      held (if missing then fault problem else pieces) = taken) :
    held (carriedOut (if missing then fault problem else pieces)) <+: taken := by
  cases missing with
  | true => exact List.nil_prefix
  | false =>
      rw [← whole (clean rfl)]
      exact held_carriedOut_isPrefix _

end Pieces

theorem held_carriedOut_enumBody (policy : Policy) (trailingComma : Bool) (members : List TypeMember) :
    held (carriedOut (enumBody policy trailingComma members)) <+: shown (members.map Node.ofTypeMember) := by
  induction members with
  | nil => exact List.nil_prefix
  | cons member rest ih =>
      rw [enumBody, List.map_cons, shown_cons]
      cases kind : isEnumMember member with
      | true =>
          refine (held_carriedOut_append ih).trans ?_
          simp [apply_ite held]
      | false =>
          cases trivia : isTrivia member with
          | true => exact held_carriedOut_append ih
          | false => exact List.nil_prefix

theorem held_carriedOut_referencedSymbol (frames : Frames) (reference : DocumentationReference)
    (stopped : flawed (referencedSymbol frames reference) = true) :
    held (carriedOut (referencedSymbol frames reference)) = [] := by
  have named (name : Identifier) (tokenClass : TokenClass) :
      held (carriedOut (identifier frames name tokenClass)) = [] := by
    have taken := held_carriedOut_isPrefix (identifier frames name tokenClass)
    rw [held_identifier] at taken
    exact List.prefix_nil.mp taken
  obtain ⟨kind, declaringType, memberName, operator, returnType, _⟩ := reference
  cases kind with
  | operator =>
      cases operator with
      | none => rfl
      | some operator =>
          cases token : operator.token? with
          | some text => simp [referencedSymbol, referencedOperator, token] at stopped
          | none =>
              cases returnType with
              | none => simp [referencedSymbol, referencedOperator, token, carriedOut, fault, Piece.isProblem]
              | some found => simp [referencedSymbol, referencedOperator, token] at stopped
  | typeDefinition => cases declaringType <;> rfl
  | indexer => simp [referencedSymbol] at stopped
  | _ =>
      cases memberName with
      | none => rfl
      | some name => exact named name _

theorem held_carriedOut_typeDeclaration (policy : Policy) (frames : Frames) (declaration : TypeDeclaration) :
    held (carriedOut (typeDeclaration policy frames declaration)) <+:
      (Node.typeDeclaration declaration).markedChildren := by
  have bases := held_unless_empty declaration.baseTypes _
    (held_afterColon policy (Node.ofTypes declaration.baseTypes)) (by intro none; rw [none]; rfl)
  have body : held (carriedOut (if declaration.kind = .enumType then
      enumBody policy declaration.trailingComma declaration.members
      else typeBody policy false declaration.members)) <+: shown
        (declaration.members.map Node.ofTypeMember) := by
    split
    · exact held_carriedOut_enumBody policy _ _
    · rw [← held_typeBody policy false]
      exact held_carriedOut_isPrefix _
  refine held_carriedOut_followed ?_ (held_afterBody _)
  refine (held_carriedOut_append (held_carriedOut_braced body)).trans ?_
  simp only [held_append, bases]
  simp [Node.markedChildren, Node.children, shown]

theorem held_carriedOut_documentationReference (policy : Policy) (frames : Frames)
    (reference : DocumentationReference)
    (whole : flawed (documentationReference policy frames reference) = false →
      held (documentationReference policy frames reference) =
        (Node.documentationReference reference).markedChildren) :
    held (carriedOut (documentationReference policy frames reference)) <+:
      (Node.documentationReference reference).markedChildren := by
  cases stopped : flawed (documentationReference policy frames reference) with
  | false =>
      rw [← whole stopped]
      exact held_carriedOut_isPrefix _
  | true =>
      rw [flawed_documentationReference] at stopped
      have nothing := held_carriedOut_referencedSymbol frames reference stopped
      have dotted : held (if reference.declaringType.isSome && reference.symbolKind ≠ .typeDefinition then
          symbol .dot "." else []) = [] := by
        split <;> rfl
      have clean : flawed (visitAll (Node.ofType? reference.declaringType) ++
          (if reference.declaringType.isSome && reference.symbolKind ≠ .typeDefinition then symbol .dot "."
            else [])) = false := by
        rw [flawed_append, flawed_visitAll, Bool.false_or]
        exact flawed_ite rfl rfl
      unfold documentationReference
      rw [carriedOut_append_of_flawed (by simp [stopped]), carriedOut_append_of_flawed (by simp [stopped]),
        carriedOut_append_of_clean clean, held_append, held_append, held_visitAll, dotted, nothing]
      simp [Node.markedChildren, shown]

/-- Up to its first problem, a plan takes children in order. -/
theorem held_carriedOut (policy : Policy) (frames : Frames) {node : Node} (own : node.IsOwnView) :
    held (carriedOut (plan policy frames node)) <+: node.markedChildren := by
  have plain := Node.embeds_of_ownView own
  have whole (clean : flawed (plan policy frames node) = false) :
      held (plan policy frames node) = node.markedChildren :=
    held_plan_of_plain policy frames plain fun _ => clean
  by_cases cut : leavesOut node = true
  · cases node with
    | field declaration => exact held_carriedOut_guarded (fun _ => by simp) whole
    | fixedField declaration => exact held_carriedOut_guarded (fun _ => by simp) whole
    | event declaration => exact held_carriedOut_guarded (fun _ => by simp) whole
    | accessor found => exact held_carriedOut_guarded (fun _ => by simp) whole
    | variableDeclaration declaration => exact held_carriedOut_guarded (fun _ => by simp) whole
    | switchSection found =>
        refine held_carriedOut_guarded (fun labelled => ?_) whole
        have flaws := flawed_switchSection policy found
        rwa [switchSection, labelled] at flaws
    | statement found =>
        cases found with
        | localVariables declaration => exact held_carriedOut_guarded (fun _ => by simp) whole
        | forLoop initializers condition iterators body =>
            refine held_carriedOut_guarded (fun fits => ?_) whole
            have flaws := flawed_forLoop policy initializers condition iterators body
            unfold forLoop at flaws
            rwa [fits] at flaws
        | fixed variableType declarators body => exact held_carriedOut_guarded (fun _ => by simp) whole
        | _ => cases cut
    | typeDeclaration declaration => exact held_carriedOut_typeDeclaration policy frames declaration
    | documentationReference reference =>
        exact held_carriedOut_documentationReference policy frames reference whole
    | _ => cases cut
  · have listed := held_plan_of_plain policy frames plain fun cut' => absurd cut' cut
    exact listed ▸ held_carriedOut_isPrefix _

/-- Before its first problem, the plan of the node asks for children of the node only, each in its slot. -/
def AsksInOrder (policy : Policy) (frames : Frames) (node : Node) : Prop :=
  (held (carriedOut (plan policy frames node))).map Prod.snd <+: node.children

theorem asksInOrder {policy : Policy} {frames : Frames} {node : Node} (own : node.IsOwnView) :
    AsksInOrder policy frames node := by
  have taken := (held_carriedOut policy frames own).map Prod.snd
  rwa [Node.markedChildren_snd] at taken

section Steps

variable {policy : Policy} {node : Node} {address : List Nat} {above : Frames} {fault : Fault}

/-- The steps of a part of a plan fail at one of its problems or inside a child. -/
theorem partSteps_fault {pieces : List Piece} (slot : Nat)
    (taken : (held (carriedOut pieces)).map Prod.snd <+: node.children.drop slot)
    (failed : firstFault? (partSteps policy node address above slot pieces) = some fault) :
    (∃ problem, .problem problem ∈ pieces ∧ fault = ⟨⟨node, address⟩ :: above, .malformed problem⟩) ∨
      ∃ slot, ∃ child ∈ node.children,
        firstFault? (steps policy child (slot :: address) (⟨node, address⟩ :: above)) = some fault := by
  induction pieces generalizing slot with
  | nil => cases failed
  | cons piece rest ih =>
      -- Whatever stands later in the plan, it fails later in the same way.
      have later {slot : Nat} (taken : (held (carriedOut rest)).map Prod.snd <+: node.children.drop slot)
          (failed : firstFault? (partSteps policy node address above slot rest) = some fault) :
          (∃ problem, .problem problem ∈ piece :: rest ∧
              fault = ⟨⟨node, address⟩ :: above, .malformed problem⟩) ∨
            ∃ slot, ∃ child ∈ node.children,
              firstFault? (steps policy child (slot :: address) (⟨node, address⟩ :: above)) = some fault := by
        rcases ih slot taken failed with ⟨problem, member, same⟩ | inside
        · exact .inl ⟨problem, List.mem_cons_of_mem _ member, same⟩
        · exact .inr inside
      rw [partSteps_cons, firstFault?_append] at failed
      cases piece with
      | event event => exact later taken failed
      | gap => exact later taken failed
      | freshLine => exact later taken failed
      | problem problem => exact .inl ⟨problem, List.mem_cons_self, (Option.some.inj failed).symm⟩
      | hidden found =>
          have cut : (held (.hidden found :: carriedOut rest)).map Prod.snd <+: node.children.drop slot :=
            taken
          exact later (taken_cons cut).2 failed
      | child found =>
          have cut : (held (.child found :: carriedOut rest)).map Prod.snd <+: node.children.drop slot :=
            taken
          obtain ⟨here, behind⟩ := taken_cons cut
          obtain ⟨present, rfl⟩ := here found rfl
          rw [pieceSteps, if_pos present] at failed
          rcases Option.or_eq_some_iff.mp failed with inside | ⟨_, after⟩
          · exact .inr ⟨slot, _, List.getElem_mem present, inside⟩
          · exact later behind after

/-- The frames of a fault lead from the failed node down to a node with which something is wrong. -/
theorem steps_fault (own : node.IsOwnView)
    (failed : firstFault? (steps policy node address above) = some fault) :
    ∃ (inside : List Frame) (problem : Problem),
      fault = ⟨inside ++ ⟨node, address⟩ :: above, .malformed problem⟩ ∧
      List.IsChain Frame.Within (inside ++ [⟨node, address⟩]) ∧
      ∀ last outer, inside ++ ⟨node, address⟩ :: above = last :: outer →
        ¬last.node.Sound (outer.head?.map Frame.node) := by
  induction node, address, above using steps_induct with
  | visit node address above ih =>
      rw [firstFault?_steps] at failed
      rcases partSteps_fault 0 (asksInOrder own) failed with
        ⟨problem, member, rfl⟩ | ⟨slot, child, member, inside⟩
      · refine ⟨[], problem, rfl, List.isChain_singleton _, ?_⟩
        rintro last outer same
        obtain ⟨rfl, rfl⟩ := List.cons.inj same
        have stopped : flawed (plan policy (⟨node, address⟩ :: above) node) = true :=
          List.any_eq_true.mpr ⟨_, member, rfl⟩
        intro sound
        have parent : Frames.parent? (⟨node, address⟩ :: above) =
            above.head?.map Frame.node := by cases above <;> rfl
        rw [← parent, ← flawed_plan policy _ own, stopped] at sound
        cases sound
      · obtain ⟨deeper, problem, rfl, linked, wrong⟩ :=
          ih slot child member (Node.ownViews_children node child member) inside
        refine ⟨deeper ++ [⟨child, slot :: address⟩], problem, by simp, ?_, ?_⟩
        · rw [List.append_assoc, List.singleton_append]
          exact List.isChain_append_cons_cons.mpr ⟨linked, member, List.isChain_singleton _⟩
        · intro last outer same
          rw [List.append_assoc, List.singleton_append] at same
          exact wrong last outer same

end Steps

end Layout

theorem trace_fault_of_printNode {policy : Policy} {node : Node} {error : Error}
    (failed : printNode policy node = .error error) :
    ∃ fault, firstFault? (Layout.trace policy node) = some fault ∧ error = fault.toError := by
  rw [printNode_eq] at failed
  cases found : firstFault? (Layout.trace policy node) with
  | some fault =>
      rw [found] at failed
      exact ⟨fault, rfl, (Except.error.inj failed).symm⟩
  | none =>
      rw [found] at failed
      cases failed

theorem trace_fault_of_printWithMap {policy : Policy} {tree : SyntaxTree} {error : Error}
    (failed : printWithMap policy tree = .error error) :
    ∃ fault, firstFault? (Layout.trace policy (.syntaxTree tree)) = some fault ∧ error = fault.toError := by
  have run := events_eq policy (.syntaxTree tree)
  cases found : firstFault? (Layout.trace policy (.syntaxTree tree)) with
  | some fault =>
      rw [found] at run
      simp only [printWithMap, printTo_eq_map_events, run] at failed
      exact ⟨fault, rfl, (Except.error.inj failed).symm⟩
  | none =>
      rw [found] at run
      obtain ⟨spans, printed, _⟩ := printWithMap_of_events run
      rw [printed] at failed
      cases failed

theorem Fault.toError_of_malformed (frames : List Frame) (last : Frame) (problem : Problem) :
    Fault.toError ⟨last :: frames, .malformed problem⟩ =
      .malformedTree last.node.kind.name
        (" > ".intercalate (((frames.reverse.map Frame.node) ++ [last.node]).map fun node => node.kind.name))
        problem.message := by
  simp [toError, path, innermostKind, Function.comp_def]

/-- Printing a fragment fails only at a node with which something is wrong. The error names the nodes from the
fragment down to that node, each a child of the one before; and what a plan asks for is always a child. -/
theorem failure_names_malformed_node {policy : Policy} {type : FragmentType} {value : type.Carrier}
    {error : Error} (failed : printNode policy (type.node value) = .error error ∨
      ∃ tree, type.node value = .syntaxTree tree ∧ printWithMap policy tree = .error error) :
    (∃ (above : List Node) (last : Node) (problem : Problem),
      (above ++ [last]).head? = some (type.node value) ∧
      List.IsChain (fun parent child => child ∈ parent.children) (above ++ [last]) ∧
      ¬last.Sound above.getLast? ∧
      error = .malformedTree last.kind.name
        (" > ".intercalate ((above ++ [last]).map fun node => node.kind.name)) problem.message) ∧
      ∀ frames node, node.IsOwnView → Layout.AsksInOrder policy frames node := by
  have met : ∃ fault, firstFault? (Layout.trace policy (type.node value)) = some fault ∧
      error = fault.toError := by
    rcases failed with failed | ⟨tree, same, failed⟩
    · exact trace_fault_of_printNode failed
    · rw [same]
      exact trace_fault_of_printWithMap failed
  refine ⟨?_, fun frames node own => Layout.asksInOrder own⟩
  obtain ⟨fault, found, rfl⟩ := met
  obtain ⟨inside, problem, rfl, linked, wrong⟩ := Layout.steps_fault (type.ownView_node value) found
  cases shape : inside ++ [⟨type.node value, []⟩] with
  | nil => simp at shape
  | cons last frames =>
      have downward : type.node value :: inside.reverse.map Frame.node = frames.reverse.map Frame.node ++
          [last.node] := by
        simpa using congrArg (fun frames => (List.reverse frames).map Frame.node) shape
      have chained : List.IsChain (fun parent child : Node => child ∈ parent.children)
          ((inside ++ [(⟨type.node value, []⟩ : Frame)]).reverse.map Frame.node) :=
        (List.isChain_map _).mpr (List.isChain_reverse.mpr linked)
      refine ⟨frames.reverse.map Frame.node, last.node, problem, ?_, ?_, ?_, ?_⟩
      · rw [← downward]
        rfl
      · rw [← downward]
        simpa using chained
      · have flaw := wrong last frames shape
        rwa [List.getLast?_map, List.getLast?_reverse]
      · exact Fault.toError_of_malformed frames last problem

def fieldWithoutVariables : SyntaxTree where
  members := [.type ⟨[], [], .classType, ⟨"C", false, none⟩, [], [], [],
    [.field ⟨[], [], .primitive "int", []⟩], false, false⟩]

theorem field_without_variables_is_named :
    printNode Policy.kr (FragmentType.syntaxTree.node fieldWithoutVariables) =
        .error (.malformedTree "Field" "SyntaxTree > TypeDeclaration > Field" "field declares no variables") ∧
      ∃ (above : List Node) (last : Node) (problem : Problem),
        (above ++ [last]).head? = some (.syntaxTree fieldWithoutVariables) ∧
        List.IsChain (fun parent child => child ∈ parent.children) (above ++ [last]) ∧
        ¬last.Sound above.getLast? ∧ last.kind.name = "Field" ∧
        "SyntaxTree > TypeDeclaration > Field" =
          " > ".intercalate ((above ++ [last]).map fun node => node.kind.name) ∧
        problem.message = "field declares no variables" := by
  have failed : printNode Policy.kr (FragmentType.syntaxTree.node fieldWithoutVariables) =
      .error (.malformedTree "Field" "SyntaxTree > TypeDeclaration > Field"
        "field declares no variables") := by
    decide +kernel
  obtain ⟨⟨above, last, problem, first, chained, flaw, same⟩, _⟩ := failure_names_malformed_node (.inl failed)
  injection same with kind path message
  exact ⟨failed, above, last, problem, first, chained, flaw, kind.symm, path, message.symm⟩

end CSharpLayout
