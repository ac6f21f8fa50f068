import Mathlib.Data.List.Forall2
import CSharpLayout.Proofs.Nesting

/-! What printing a node takes from the nodes around it. No plan looks at the members of the file it stands
in, nor at its own place among them, so a node without faults is printed in the same way in any file. -/

namespace CSharpLayout

def Step.isFrame : Step → Bool
  | .opens _ => true
  | .closes _ => true
  | _ => false

def unframed (steps : List Step) : List Step := steps.filter fun step => !step.isFrame

theorem unframed_append (left right : List Step) :
    unframed (left ++ right) = unframed left ++ unframed right :=
  List.filter_append ..

theorem firstFault?_unframed (steps : List Step) : firstFault? (unframed steps) = firstFault? steps := by
  induction steps with
  | nil => rfl
  | cons step rest ih =>
      cases step with
      | fault found => rfl
      | _ => exact ih

theorem settled_unframed (atLineStart : Bool) (steps : List Step) :
    settled atLineStart (unframed steps) = settled atLineStart steps := by
  induction steps generalizing atLineStart with
  | nil => rfl
  | cons step rest ih =>
      cases step with
      | event event => exact congrArg (event :: ·) (ih _)
      | gap => cases atLineStart <;> simp [unframed, Step.isFrame, settled, ← ih]
      | freshLine => cases atLineStart <;> simp [unframed, Step.isFrame, settled, ← ih]
      | _ => exact ih atLineStart

theorem lineStartAfterSteps_unframed (atLineStart : Bool) (steps : List Step) :
    lineStartAfterSteps atLineStart (unframed steps) = lineStartAfterSteps atLineStart steps := by
  induction steps generalizing atLineStart with
  | nil => rfl
  | cons step rest ih => cases step <;> exact ih _

inductive Frame.Alike : Frame → Frame → Prop
  | same (node : Node) (here there : List Nat) : Frame.Alike ⟨node, here⟩ ⟨node, there⟩
  | files (first second : SyntaxTree) (here there : List Nat) :
      Frame.Alike ⟨.syntaxTree first, here⟩ ⟨.syntaxTree second, there⟩

/-- Open nodes that no plan can tell apart. Slots count only in the headers of statements and in front of
labels. -/
structure Frames.Alike (left right : Frames) : Prop where
  frames : List.Forall₂ Frame.Alike left right
  header : Layout.inHeader left = Layout.inHeader right
  followed : Layout.isFollowedByStatement left = Layout.isFollowedByStatement right

namespace Frames.Alike

theorem below {node : Node} {here there : List Nat} {left right : Frames}
    (alike : Alike (⟨node, here⟩ :: left) (⟨node, there⟩ :: right)) (child : Node) (slot : Nat) :
    Alike (⟨child, slot :: here⟩ :: ⟨node, here⟩ :: left)
      (⟨child, slot :: there⟩ :: ⟨node, there⟩ :: right) where
  frames := .cons (.same child _ _) alike.frames
  header := rfl
  followed := rfl

theorem member (node : Node) (first second : SyntaxTree) (here there : List Nat) :
    Alike [⟨node, here⟩, ⟨.syntaxTree first, []⟩] [⟨node, there⟩, ⟨.syntaxTree second, []⟩] where
  frames := .cons (.same node _ _) (.cons (.files first second _ _) .nil)
  header := rfl
  followed := rfl

variable {left right : Frames}

theorem parent? (alike : Alike left right) :
    left.parent? = right.parent? ∨
      ∃ first second, left.parent? = some (.syntaxTree first) ∧
        right.parent? = some (.syntaxTree second) := by
  cases alike.frames with
  | nil => exact .inl rfl
  | cons _ above =>
      cases above with
      | nil => exact .inl rfl
      | cons parent _ =>
          cases parent with
          | same node => exact .inl rfl
          | files first second => exact .inr ⟨first, second, rfl, rfl⟩

theorem grandparent? (alike : Alike left right) :
    left.grandparent? = right.grandparent? ∨
      ∃ first second,
        left.grandparent? = some (.syntaxTree first) ∧ right.grandparent? = some (.syntaxTree second) := by
  cases alike.frames with
  | nil => exact .inl rfl
  | cons _ above =>
      cases above with
      | nil => exact .inl rfl
      | cons _ beyond =>
          cases beyond with
          | nil => exact .inl rfl
          | cons grandparent _ =>
              cases grandparent with
              | same node => exact .inl rfl
              | files first second => exact .inr ⟨first, second, rfl, rfl⟩

theorem any_isQuery (alike : List.Forall₂ Frame.Alike left right) :
    (left.any fun frame => frame.node.isQuery) = right.any fun frame => frame.node.isQuery := by
  induction alike with
  | nil => rfl
  | cons frame _ ih =>
      cases frame with
      | same node => simp only [List.any_cons, ih]
      | files first second => exact ih

theorem findSome?_asynchrony? (alike : List.Forall₂ Frame.Alike left right) :
    (left.findSome? fun frame => frame.node.asynchrony?) = right.findSome? fun frame =>
      frame.node.asynchrony? := by
  induction alike with
  | nil => rfl
  | cons frame _ ih =>
      cases frame with
      | same node => simp only [List.findSome?_cons, ih]
      | files first second => exact ih

theorem identifier (alike : Alike left right) : Layout.identifier left = Layout.identifier right := by
  have keywords : left.isKeyword = right.isKeyword := by
    funext name
    simp only [isKeyword, any_isQuery alike.frames, findSome?_asynchrony? alike.frames]
  funext name tokenClass
  simp only [Layout.identifier, escaped, keywords]

theorem typeNameClass (alike : List.Forall₂ Frame.Alike left right) :
    Layout.typeNameClass left = Layout.typeNameClass right := by
  induction alike with
  | nil => rfl
  | cons frame _ ih =>
      cases frame with
      | same node => cases node <;> first | rfl | exact ih
      | files first second => rfl

theorem semicolon (alike : Alike left right) : Layout.semicolon left = Layout.semicolon right := by
  simp only [Layout.semicolon, alike.header]

theorem memberBody (alike : Alike left right) : Layout.memberBody left = Layout.memberBody right := by
  funext body
  cases body <;> simp only [Layout.memberBody, alike.semicolon]

theorem typedVariables (alike : Alike left right) (policy : Policy) :
    Layout.typedVariables policy left = Layout.typedVariables policy right := by
  funext type declarators
  simp only [Layout.typedVariables, alike.semicolon]

theorem block (alike : Alike left right) (policy : Policy) :
    Layout.block policy left = Layout.block policy right := by
  funext found
  rcases alike.parent? with same | ⟨first, second, file, file'⟩
  · simp only [Layout.block, Layout.blockBraces, same]
  · simp only [Layout.block, Layout.blockBraces, Layout.blockSite, file, file', Option.any_some,
      Node.isExpression]

theorem variableDeclaration (alike : Alike left right) (policy : Policy) :
    Layout.variableDeclaration policy left = Layout.variableDeclaration policy right := by
  funext declaration
  simp only [Layout.variableDeclaration, alike.semicolon]

theorem query (alike : Alike left right) : Layout.query left = Layout.query right := by
  have nested : Layout.isNestedQuery left = Layout.isNestedQuery right := by
    rcases alike.parent? with same | ⟨first, second, file, file'⟩
    · simp only [Layout.isNestedQuery, same]
    · simp only [Layout.isNestedQuery, file, file']
  funext found
  simp only [Layout.query, nested]

theorem arrayInitializer (alike : Alike left right) (policy : Policy) :
    Layout.arrayInitializer policy left = Layout.arrayInitializer policy right := by
  funext initializer
  have braces : Layout.omitsBraces left initializer = Layout.omitsBraces right initializer := by
    rcases alike.parent? with same | ⟨first, second, file, file'⟩
    · rcases alike.grandparent? with same' | ⟨first, second, file, file'⟩
      · simp only [Layout.omitsBraces, same, same']
      · cases parent : right.parent? <;> simp only [Layout.omitsBraces, same, parent, file, file']
    · simp only [Layout.omitsBraces, file, file']
  simp only [Layout.arrayInitializer, braces]

theorem attributeSection (alike : Alike left right) (policy : Policy) :
    Layout.attributeSection policy left = Layout.attributeSection policy right := by
  funext found
  rcases alike.parent? with same | ⟨first, second, file, file'⟩
  · simp only [Layout.attributeSection, same]
  · simp only [Layout.attributeSection, file, file']

theorem enclosingName (alike : Alike left right) :
    Layout.enclosingName left = Layout.enclosingName right := by
  funext own
  rcases alike.parent? with same | ⟨first, second, file, file'⟩
  · simp only [Layout.enclosingName, same]
  · simp only [Layout.enclosingName, file, file']

theorem accessorFits (alike : Alike left right) : Layout.accessorFits left = Layout.accessorFits right := by
  funext kind
  rcases alike.parent? with same | ⟨first, second, file, file'⟩
  · simp only [Layout.accessorFits, same]
  · simp only [Layout.accessorFits, file, file']

theorem variableClass (alike : Alike left right) :
    Layout.variableClass left = Layout.variableClass right := by
  rcases alike.parent? with same | ⟨first, second, file, file'⟩
  · simp only [Layout.variableClass, same]
  · simp only [Layout.variableClass, file, file']

theorem expression (alike : Alike left right) (policy : Policy) :
    Layout.expression policy left = Layout.expression policy right := by
  funext found
  cases found <;>
    simp only [Layout.expression, Layout.memberAccess, alike.identifier, alike.query, alike.arrayInitializer]

theorem statement (alike : Alike left right) (policy : Policy) :
    Layout.statement policy left = Layout.statement policy right := by
  funext found
  cases found <;>
    simp only [Layout.statement, alike.identifier, alike.semicolon, alike.block, alike.variableDeclaration,
      alike.followed]

end Frames.Alike

namespace Layout

/-- A node has the same plan wherever its surroundings are alike. -/
theorem plan_alike {left right : Frames} (alike : Frames.Alike left right) (policy : Policy) (node : Node) :
    plan policy left node = plan policy right node := by
  cases node with
  | type found =>
      cases found <;>
        simp only [plan, type, alike.identifier, Frames.Alike.typeNameClass alike.frames]
  | queryClause clause =>
      cases clause <;> simp only [plan, queryClause, alike.identifier]
  | expression found => simp only [plan, alike.expression]
  | statement found => simp only [plan, alike.statement]
  | block found => simp only [plan, alike.block]
  | query found => simp only [plan, alike.query]
  | arrayInitializer found => simp only [plan, alike.arrayInitializer]
  | attributeSection found => simp only [plan, alike.attributeSection]
  | variableDeclaration found => simp only [plan, alike.variableDeclaration]
  | _ =>
      simp only [plan, usingDeclaration, usingAlias, externAlias, typeDeclaration, delegate, field,
        fixedField, event, fixedVariable, method, constructor, destructor, property, customEvent, accessor,
        operator, enumMember, parameter, typeParameter, constraint, variableInitializer,
        documentationReference, referencedSymbol, catchClause, alike.identifier, alike.semicolon,
        alike.memberBody, alike.typedVariables, alike.enclosingName, alike.accessorFits, alike.variableClass]

section Steps

variable {policy : Policy} {node other : Node} {here there : List Nat} {left right : Frames}

theorem unframed_steps :
    unframed (steps policy node here left) =
      .event (.enter node) ::
        (unframed (partSteps policy node here left 0 (plan policy (⟨node, here⟩ :: left) node)) ++
          [.event (.leave node)]) := by
  simp [steps_eq, unframed, Step.isFrame]

theorem partSteps_alike {slot slot' : Nat} {pieces : List Piece}
    (children : ∀ index found, .child found ∈ pieces →
      firstFault? (pieceSteps policy node here left (slot + index) (.child found)) = none →
        unframed (pieceSteps policy other there right (slot' + index) (.child found)) =
          unframed (pieceSteps policy node here left (slot + index) (.child found)))
    (sound : firstFault? (partSteps policy node here left slot pieces) = none) :
    unframed (partSteps policy other there right slot' pieces) =
      unframed (partSteps policy node here left slot pieces) := by
  induction pieces generalizing slot slot' with
  | nil => rfl
  | cons piece rest ih =>
      obtain ⟨first, others⟩ := firstFault?_partSteps_cons sound
      have same : unframed (pieceSteps policy other there right slot' piece) =
          unframed (pieceSteps policy node here left slot piece) := by
        cases piece with
        | child found => exact children 0 found List.mem_cons_self first
        | problem problem => simp [pieceSteps] at first
        | _ => rfl
      rw [partSteps_cons, partSteps_cons, unframed_append, unframed_append, same]
      congr 1
      refine ih (fun index found asked => ?_) others
      have behind := List.mem_cons_of_mem piece asked
      cases piece.isChild with
      | true => simpa only [if_true, Nat.add_assoc, Nat.add_comm 1] using children (index + 1) found behind
      | false => exact children index found behind

/-- A node without faults is printed in the same way wherever its surroundings are alike. -/
theorem steps_alike (sound : firstFault? (steps policy node here left) = none) (there : List Nat)
    (right : Frames) (alike : Frames.Alike (⟨node, here⟩ :: left) (⟨node, there⟩ :: right)) :
    unframed (steps policy node there right) = unframed (steps policy node here left) := by
  revert there right
  induction node, here, left using steps_induct with
  | visit node here left ih =>
      intro there right alike
      rw [firstFault?_steps] at sound
      -- Both plans are the same list of pieces, so only the steps of the children are left to compare.
      rw [unframed_steps, unframed_steps, ← plan_alike alike]
      congr 2
      refine partSteps_alike (fun index found asked fine => ?_) sound
      by_cases present : 0 + index < node.children.length
      · simp only [pieceSteps, if_pos present] at fine ⊢
        exact ih _ found (mem_children_of_asked asked present) fine _ _ (alike.below _ _)
      · rw [pieceSteps, if_neg present] at fine
        simp at fine

end Steps

end Layout

end CSharpLayout
