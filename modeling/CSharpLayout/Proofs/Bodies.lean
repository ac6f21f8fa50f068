import CSharpLayout.Proofs.Margins

/-! What stands in braces. The plan of a node with a body is a heading, a list in braces and a closing part;
members, accessors, sections and statements have lines of their own in such a list, with blank lines as the
policy wants them. -/

namespace CSharpLayout

def Event.staysInLine : Event → Bool
  | .space => true
  | .token _ _ => true
  | _ => false

def Piece.staysInLine : Piece → Bool
  | .event found => found.staysInLine
  | _ => false

namespace Layout

inductive Lined (ends : Node → Option Margin) : List Piece → Prop
  | nil : Lined ends []
  | blank {rest : List Piece} : Lined ends rest → Lined ends (.event .newline :: rest)
  | visit {node : Node} {rest : List Piece} : ends node = some .start → Lined ends rest →
      Lined ends (.child node :: rest)
  | item {node : Node} {closing rest : List Piece} : closing.all Piece.staysInLine = true → Lined ends rest →
      Lined ends (.child node :: (closing ++ .event .newline :: rest))

namespace Lined

variable {ends : Node → Option Margin} {pieces front back : List Piece} {child : Node}

theorem newlines {rest : List Piece} (lined : Lined ends rest) (count : Nat) :
    Lined ends (newlines count ++ rest) := by
  induction count with
  | zero => exact lined
  | succ count ih => exact .blank ih

theorem visitAll {nodes : List Node} (known : ∀ node ∈ nodes, ends node = some .start) :
    Lined ends (visitAll nodes) := by
  induction nodes with
  | nil => exact .nil
  | cons node rest ih =>
      exact .visit (known node List.mem_cons_self)
        (ih fun node member => known node (List.mem_cons_of_mem _ member))

theorem not_child_of_staysInLine {closing : List Piece} (inLine : closing.all Piece.staysInLine = true) :
    .child child ∉ closing := fun member => by
  have found := List.all_eq_true.mp inLine _ member
  cases found

theorem level_of_staysInLine {closing : List Piece} (inLine : closing.all Piece.staysInLine = true)
    (depth : Nat) :
    pieceLevel depth closing = some depth := by
  refine pieceLevel_of_still (fun piece member depth => ?_) depth
  have found := List.all_eq_true.mp inLine piece member
  cases piece with
  | event event =>
      cases event with
      | indent => cases found
      | unindent => cases found
      | _ => rfl
  | _ => rfl

theorem level_item {node : Node} {closing rest : List Piece} (inLine : closing.all Piece.staysInLine = true)
    (depth : Nat) :
    pieceLevel depth (.child node :: (closing ++ .event .newline :: rest)) = pieceLevel depth rest := by
  change pieceLevel depth (closing ++ .event .newline :: rest) = _
  rw [pieceLevel_append, level_of_staysInLine inLine]
  rfl

theorem margin_item (node : Node) (closing rest : List Piece) (margin : Option Margin) :
    pieceMargin ends margin (.child node :: (closing ++ .event .newline :: rest)) =
      pieceMargin ends (some .start) rest := by
  rw [pieceMargin_cons, pieceMargin_append]
  rfl

theorem item_cut {node : Node} {closing rest : List Piece} (inLine : closing.all Piece.staysInLine = true)
    (split : .child node :: (closing ++ .event .newline :: rest) = front ++ .child child :: back) :
    (front = [] ∧ back = closing ++ .event .newline :: rest) ∨
      ∃ later, front = .child node :: (closing ++ .event .newline :: later) ∧
        rest = later ++ .child child :: back := by
  cases front with
  | nil => exact .inl ⟨rfl, (List.cons.inj split).2.symm⟩
  | cons first front =>
      obtain ⟨rfl, cut⟩ := List.cons.inj split
      rcases append_cut cut with ⟨_, rfl, _⟩ | ⟨start, behind, rfl⟩
      · exact absurd (List.mem_append_right _ List.mem_cons_self) (not_child_of_staysInLine inLine)
      · cases start with
        | nil => cases (List.cons.inj behind).1
        | cons first later =>
            obtain ⟨rfl, beyond⟩ := List.cons.inj behind
            exact .inr ⟨later, rfl, beyond⟩

theorem ended (lined : Lined ends pieces) (depth : Nat) :
    pieceMargin ends (some .start) pieces = some .start ∧ pieceLevel depth pieces = some depth := by
  induction lined with
  | nil => exact ⟨rfl, rfl⟩
  | blank _ ih => exact ih
  | visit known _ ih =>
      refine ⟨?_, ih.2⟩
      rw [pieceMargin_cons, Piece.marginAfter, known]
      exact ih.1
  | item inLine _ ih => exact ⟨(margin_item ..).trans ih.1, (level_item inLine depth).trans ih.2⟩

theorem began (lined : Lined ends pieces) (split : pieces = front ++ .child child :: back) (depth : Nat) :
    pieceMargin ends (some .start) front = some .start ∧ pieceLevel depth front = some depth := by
  induction lined generalizing front with
  | nil => simp at split
  | blank _ ih =>
      cases front with
      | nil => cases (List.cons.inj split).1
      | cons first front =>
          obtain ⟨rfl, cut⟩ := List.cons.inj split
          have earlier := ih cut
          exact earlier
  | visit known _ ih =>
      cases front with
      | nil => exact ⟨rfl, rfl⟩
      | cons first front =>
          obtain ⟨rfl, cut⟩ := List.cons.inj split
          have earlier := ih cut
          refine ⟨?_, earlier.2⟩
          rw [pieceMargin_cons, Piece.marginAfter, known]
          exact earlier.1
  | item inLine _ ih =>
      rcases item_cut inLine split with ⟨rfl, _⟩ | ⟨later, rfl, cut⟩
      · exact ⟨rfl, rfl⟩
      · have earlier := ih cut
        exact ⟨(margin_item ..).trans earlier.1, (level_item inLine depth).trans earlier.2⟩

theorem broken (lined : Lined ends pieces) (split : pieces = front ++ .child child :: back)
    (unknown : ends child ≠ some .start) :
    ∃ closing rest, back = closing ++ .event .newline :: rest ∧ closing.all Piece.staysInLine = true := by
  induction lined generalizing front with
  | nil => simp at split
  | blank _ ih =>
      cases front with
      | nil => cases (List.cons.inj split).1
      | cons first front => exact ih (List.cons.inj split).2
  | visit known _ ih =>
      cases front with
      | nil =>
          cases (List.cons.inj split).1
          exact absurd known unknown
      | cons first front => exact ih (List.cons.inj split).2
  | item inLine _ ih =>
      rcases item_cut inLine split with ⟨_, rfl⟩ | ⟨later, _, cut⟩
      · exact ⟨_, _, rfl, inLine⟩
      · exact ih cut

end Lined

theorem Lined.namespaceMembers (policy : Policy) {ends : Node → Option Margin}
    {members : List NamespaceMember} (known : ∀ member, ends (Node.ofNamespaceMember member) = some .start) :
    Lined ends (namespaceMembers policy members) := by
  induction members with
  | nil => exact .nil
  | cons member rest ih =>
      rw [Layout.namespaceMembers, List.append_assoc]
      refine .visit (known member) ?_
      split
      · exact ih.newlines _
      · exact ih

theorem typeBody_cons {policy : Policy} {afterMember : Bool} {member : TypeMember} {rest : List TypeMember}
    (fine : flawed (typeBody policy afterMember (member :: rest)) = false) :
    isEnumMember member = false ∧ flawed (typeBody policy (!isTrivia member) rest) = false ∧
      typeBody policy afterMember (member :: rest) =
        newlines (if afterMember then policy.blankLines.betweenMembers else 0) ++
          .child (Node.ofTypeMember member) :: typeBody policy (!isTrivia member) rest := by
  rw [typeBody] at fine ⊢
  simp only [flawed_append, Bool.or_eq_false_iff] at fine
  cases enumerated : isEnumMember member with
  | true => simp [enumerated] at fine
  | false =>
      refine ⟨rfl, fine.2, ?_⟩
      cases afterMember <;> simp [newlines, visit]

theorem Lined.typeBody {policy : Policy} {ends : Node → Option Margin} {members : List TypeMember}
    {afterMember : Bool}
    (known : ∀ member, isEnumMember member = false → ends (Node.ofTypeMember member) = some .start)
    (fine : flawed (typeBody policy afterMember members) = false) :
    Lined ends (typeBody policy afterMember members) := by
  induction members generalizing afterMember with
  | nil => exact .nil
  | cons member rest ih =>
      obtain ⟨plain, later, shape⟩ := typeBody_cons fine
      rw [shape]
      exact (Lined.visit (known member plain) (ih later)).newlines _

theorem staysInLine_comma (policy : Policy) : (comma policy true).all Piece.staysInLine = true := by
  unfold comma spaceIf
  cases policy.spacing .beforeComma <;> rfl

theorem Lined.enumBody {policy : Policy} {ends : Node → Option Margin} {trailingComma : Bool}
    {members : List TypeMember}
    (known : ∀ member, isTrivia member = true → ends (Node.ofTypeMember member) = some .start)
    (fine : flawed (enumBody policy trailingComma members) = false) :
    Lined ends (enumBody policy trailingComma members) := by
  induction members with
  | nil => exact .nil
  | cons member rest ih =>
      rw [Layout.enumBody] at fine ⊢
      rw [flawed_append, Bool.or_eq_false_iff] at fine
      have later := ih fine.2
      split
      · rw [List.append_assoc, List.append_assoc]
        refine .item ?_ later
        split
        · exact staysInLine_comma policy
        · rfl
      next plain =>
          split
          next trivia => exact .visit (known member trivia) later
          next other => simp [plain, other] at fine

theorem Lined.elementLines (policy : Policy) {ends : Node → Option Margin} (trailingComma : Bool)
    (nodes : List Node) :
    Lined ends (elementLines policy trailingComma nodes) := by
  induction nodes with
  | nil => exact .nil
  | cons node rest ih =>
      cases rest with
      | nil =>
          rw [Layout.elementLines, List.append_assoc]
          refine .item ?_ .nil
          split
          · exact staysInLine_comma policy
          · rfl
      | cons next rest =>
          rw [Layout.elementLines, List.append_assoc, List.append_assoc]
          · exact .item (staysInLine_comma policy) ih
          · exact List.cons_ne_nil next rest

structure BracedPlan where
  heading : List Piece
  style : BraceStyle
  flat : Bool := false
  lines : List Piece
  closing : List Piece

def BracedPlan.pieces (braced : BracedPlan) : List Piece :=
  braced.heading ++ Layout.braced braced.style (outdentedIf braced.flat braced.lines) ++ braced.closing

def bracedPlan? (policy : Policy) (frames : Frames) : Node → Option BracedPlan
  | .namespaceDeclaration declaration =>
      some {
        heading := word "namespace" ++ visit (Node.ofType declaration.name)
        style := policy.braces .namespaceBody
        lines := namespaceMembers policy declaration.members
        closing := afterBody declaration.trailingSemicolon }
  | .typeDeclaration declaration =>
      some {
        heading := leading declaration.attributes declaration.modifiers ++
          word (typeKeyword declaration.kind) ++
          identifier frames declaration.name .type ++
          chevronList policy (Node.ofTypeParameters declaration.typeParameters) ++
          (if declaration.baseTypes.isEmpty then []
            else afterColon policy (Node.ofTypes declaration.baseTypes)) ++
          visitAll (Node.ofConstraints declaration.constraints)
        style := policy.braces (typeBraces declaration.kind)
        lines := if declaration.kind = .enumType
          then enumBody policy declaration.trailingComma declaration.members
          else typeBody policy false declaration.members
        closing := afterBody declaration.trailingSemicolon }
  | .property declaration =>
      some {
        heading := leading declaration.attributes declaration.modifiers ++
          visit (Node.ofType declaration.returnType) ++
          space ++ explicitInterface declaration.explicitInterface ++
            identifier frames declaration.name .property
        style := policy.braces .property
        lines := visitAll (Node.ofAccessors declaration.accessors)
        closing := newline }
  | .indexer declaration =>
      some {
        heading := leading declaration.attributes declaration.modifiers ++
          visit (Node.ofType declaration.returnType) ++
          space ++ explicitInterface declaration.explicitInterface ++ word "this" ++
          spaceIf (policy.spacing .beforeMethodDeclarationParentheses) ++
          bracketedList policy (policy.spacing .withinMethodDeclarationParentheses)
            (Node.ofParameters declaration.parameters)
        style := policy.braces .property
        lines := visitAll (Node.ofAccessors declaration.accessors)
        closing := newline }
  | .customEvent declaration =>
      some {
        heading := leading declaration.attributes declaration.modifiers ++ word "event" ++
          visit (Node.ofType declaration.returnType) ++ space ++
            explicitInterface declaration.explicitInterface ++
          identifier frames declaration.name .event
        style := policy.braces .event
        lines := visitAll (Node.ofAccessors declaration.accessors)
        closing := newline }
  | .block found =>
      some {
        heading := []
        style := blockBraces policy frames
        lines := visitAll (Node.ofStatements found.statements)
        closing := if frames.parent?.any Node.isExpression then [] else newline }
  | .statement (.switch operand sections) =>
      some {
        heading := header policy "switch" .beforeSwitchParentheses .withinSwitchParentheses
          (visit (Node.ofExpression operand))
        style := policy.braces .statement
        flat := !policy.indentation.switchBody
        lines := visitAll (sections.map Node.switchSection)
        closing := newline }
  | .arrayInitializer initializer =>
      if omitsBraces frames initializer then none
      else some {
        heading := []
        style := initializerBraces policy
        lines := elementLines policy initializer.trailingComma (Node.ofExpressions initializer.elements)
        closing := [] }
  | .expression (.anonymousTypeCreate initializers) =>
      some {
        heading := word "new"
        style := initializerBraces policy
        lines := elementLines policy false (Node.ofExpressions initializers)
        closing := [] }
  | _ => none

section Braced

variable {policy : Policy} {frames : Frames} {node : Node} {found : BracedPlan}

theorem plan_of_braced (shape : bracedPlan? policy frames node = some found) :
    plan policy frames node = found.pieces := by
  unfold bracedPlan? at shape
  split at shape
  · cases shape
    simp [plan, namespaceDeclaration, BracedPlan.pieces, outdentedIf]
  · cases shape
    simp [plan, typeDeclaration, BracedPlan.pieces, outdentedIf]
  · cases shape
    simp [plan, property, accessorList, BracedPlan.pieces, outdentedIf]
  · cases shape
    simp [plan, indexer, accessorList, BracedPlan.pieces, outdentedIf]
  · cases shape
    simp [plan, customEvent, accessorList, BracedPlan.pieces, outdentedIf]
  · cases shape
    simp [plan, block, BracedPlan.pieces, outdentedIf]
  · cases shape
    cases indented : policy.indentation.switchBody <;>
      simp [plan, statement, switchBody, BracedPlan.pieces, outdentedIf, indented]
  · split at shape
    · cases shape
    next kept =>
        cases shape
        simp [plan, arrayInitializer, initializerElements, BracedPlan.pieces, outdentedIf, kept]
  · cases shape
    simp [plan, expression, initializerElements, BracedPlan.pieces, outdentedIf]
  · cases shape

theorem ending_ofAccessors {parent : Option Node} (accessors : List Accessor) :
    ∀ child ∈ Node.ofAccessors accessors, child.ending parent = some .start := by
  intro child member
  obtain ⟨accessor, _, rfl⟩ := List.mem_map.mp member
  rfl

theorem isEnumMember_of_trivia {member : TypeMember} (trivia : isTrivia member = true) :
    isEnumMember member = false := by
  cases member with
  | enumMember declaration => cases trivia
  | _ => rfl

theorem ending_ofTypeMember {parent : Option Node} {member : TypeMember}
    (plain : isEnumMember member = false) :
    (Node.ofTypeMember member).ending parent = some .start := by
  cases member with
  | enumMember found => cases plain
  | _ => rfl

theorem lined_of_braced (shape : bracedPlan? policy frames node = some found)
    (fine : flawed (plan policy frames node) = false)
    (plain : ∀ child ∈ node.children, child.kind ≠ .pattern) :
    Lined (Node.ending (some node)) found.lines := by
  have sound : flawed found.lines = false := by
    rw [plan_of_braced shape] at fine
    cases flat : found.flat <;> simp_all [BracedPlan.pieces, outdentedIf]
  unfold bracedPlan? at shape
  split at shape
  · cases shape
    exact .namespaceMembers policy fun member => by cases member <;> rfl
  · cases shape
    dsimp only at sound ⊢
    split at sound
    next enumerated =>
        rw [if_pos enumerated]
        exact .enumBody (fun member trivia => ending_ofTypeMember (isEnumMember_of_trivia trivia)) sound
    next other =>
        rw [if_neg other]
        exact .typeBody (fun member plain => ending_ofTypeMember plain) sound
  · cases shape
    exact .visitAll (ending_ofAccessors _)
  · cases shape
    exact .visitAll (ending_ofAccessors _)
  · cases shape
    exact .visitAll (ending_ofAccessors _)
  · cases shape
    exact .visitAll (Node.ending_ofStatements rfl plain)
  · cases shape
    refine .visitAll fun child member => ?_
    obtain ⟨listed, _, rfl⟩ := List.mem_map.mp member
    rfl
  · split at shape
    · cases shape
    · cases shape
      exact .elementLines policy _ _
  · cases shape
    exact .elementLines policy _ _
  · cases shape

end Braced

end Layout

namespace Node

/-- The children of a node that have lines of their own: the members of a file, of a namespace or of a type,
the accessors of a property, an indexer or an event, the sections of a switch and the statements of a
block. -/
def listed : Node → List Node
  | .syntaxTree tree => tree.members.map ofNamespaceMember
  | .namespaceDeclaration declaration => declaration.members.map ofNamespaceMember
  | .typeDeclaration declaration => declaration.members.map ofTypeMember
  | .property declaration => ofAccessors declaration.accessors
  | .indexer declaration => ofAccessors declaration.accessors
  | .customEvent declaration => ofAccessors declaration.accessors
  | .statement (.switch _ sections) => sections.map switchSection
  | .block found => ofStatements found.statements
  | _ => []

def isUsing : Node → Bool
  | .usingDeclaration _ => true
  | .usingAlias _ => true
  | _ => false

def isTrivia : Node → Bool
  | .comment _ => true
  | .directive _ => true
  | _ => false

def isEnum : Node → Bool
  | .typeDeclaration declaration => declaration.kind = .enumType
  | _ => false

def blankLines (policy : Policy) (parent first second : Node) : Nat :=
  match parent with
  | .syntaxTree _ => if first.isUsing && !second.isUsing then policy.blankLines.afterUsings else 0
  | .namespaceDeclaration _ => if first.isUsing && !second.isUsing then policy.blankLines.afterUsings else 0
  | .typeDeclaration _ => if first.isTrivia then 0 else policy.blankLines.betweenMembers
  | _ => 0

def opening : Node → Option Margin
  | .syntaxTree _ => some .start
  | _ => none

end Node

namespace Layout

def listing (policy : Policy) : Node → List Piece
  | .syntaxTree tree => namespaceMembers policy tree.members
  | .namespaceDeclaration declaration => namespaceMembers policy declaration.members
  | .typeDeclaration declaration =>
      if declaration.kind = .enumType then enumBody policy declaration.trailingComma declaration.members
      else typeBody policy false declaration.members
  | .property declaration => visitAll (Node.ofAccessors declaration.accessors)
  | .indexer declaration => visitAll (Node.ofAccessors declaration.accessors)
  | .customEvent declaration => visitAll (Node.ofAccessors declaration.accessors)
  | .statement (.switch _ sections) => visitAll (sections.map Node.switchSection)
  | .block found => visitAll (Node.ofStatements found.statements)
  | _ => []

section Listing

variable {policy : Policy} {front between back : List Piece} {first second child : Node}

theorem skip_childless {blank rest : List Piece} (childless : ∀ node, .child node ∉ blank)
    (split : blank ++ rest = front ++ .child child :: back) :
    ∃ later, front = blank ++ later ∧ rest = later ++ .child child :: back := by
  rcases append_cut split with ⟨_, rfl, _⟩ | ⟨later, cut, rfl⟩
  · exact absurd (List.mem_append_right _ List.mem_cons_self) (childless child)
  · exact ⟨later, rfl, cut⟩

theorem first_child {blank rest : List Piece} (childless : ∀ node, .child node ∉ blank)
    (childless' : ∀ node, .child node ∉ front)
    (split : blank ++ .child first :: rest = front ++ .child child :: back) :
    front = blank ∧ child = first ∧ back = rest := by
  obtain ⟨later, rfl, cut⟩ := skip_childless childless split
  cases later with
  | nil =>
      obtain ⟨same, rfl⟩ := List.cons.inj cut
      cases same
      exact ⟨List.append_nil _, rfl, rfl⟩
  | cons piece later =>
      cases (List.cons.inj cut).1
      exact absurd (List.mem_append_right _ List.mem_cons_self) (childless' first)

theorem not_child_of_newlines (count : Nat) (node : Node) : .child node ∉ newlines count := fun member => by
  cases List.eq_of_mem_replicate member

theorem visitAll_gap {nodes : List Node}
    (split : visitAll nodes = front ++ .child first :: (between ++ .child second :: back))
    (childless : ∀ node, .child node ∉ between) : between = [] := by
  induction nodes generalizing front with
  | nil => simp [visitAll] at split
  | cons node rest ih =>
      cases front with
      | nil =>
          have behind : visitAll rest = between ++ .child second :: back := (List.cons.inj split).2
          cases rest with
          | nil => simp [visitAll] at behind
          | cons next rest => exact (first_child (fun _ member => by cases member) childless behind).1
      | cons piece front => exact ih (List.cons.inj split).2

theorem isUsing_ofNamespaceMember (member : NamespaceMember) :
    (Node.ofNamespaceMember member).isUsing = isUsing member := by
  cases member <;> rfl

theorem isTrivia_ofTypeMember (member : TypeMember) :
    (Node.ofTypeMember member).isTrivia = isTrivia member := by
  cases member <;> rfl

theorem namespaceMembers_gap {members : List NamespaceMember}
    (split : namespaceMembers policy members = front ++ .child first :: (between ++ .child second :: back))
    (childless : ∀ node, .child node ∉ between) :
    between = newlines (if first.isUsing && !second.isUsing then policy.blankLines.afterUsings else 0) := by
  induction members generalizing front with
  | nil => simp [namespaceMembers] at split
  | cons member rest ih =>
      rw [namespaceMembers, List.append_assoc] at split
      have blank (node : Node) :
          .child node ∉ (if isUsing member && rest.head?.any fun next => !isUsing next then
          newlines policy.blankLines.afterUsings else []) := by
        split
        · exact not_child_of_newlines _ node
        · exact List.not_mem_nil
      cases front with
      | nil =>
          obtain ⟨same, behind⟩ := List.cons.inj split
          cases same
          cases rest with
          | nil =>
              obtain ⟨_, _, missing⟩ := skip_childless blank behind
              simp [namespaceMembers] at missing
          | cons next rest =>
              rw [namespaceMembers, List.append_assoc] at behind
              obtain ⟨rfl, rfl, _⟩ := first_child blank childless behind
              rw [isUsing_ofNamespaceMember, isUsing_ofNamespaceMember]
              cases isUsing member <;> cases followed : isUsing next <;> simp [followed, newlines]
      | cons piece front =>
          obtain ⟨later, _, cut⟩ := skip_childless blank (List.cons.inj split).2
          exact ih cut

theorem typeBody_gap {members : List TypeMember} {afterMember : Bool}
    (fine : flawed (typeBody policy afterMember members) = false)
    (split : typeBody policy afterMember members = front ++ .child first ::
      (between ++ .child second :: back))
    (childless : ∀ node, .child node ∉ between) :
    between = newlines (if first.isTrivia then 0 else policy.blankLines.betweenMembers) := by
  induction members generalizing front afterMember with
  | nil => simp [typeBody] at split
  | cons member rest ih =>
      obtain ⟨_, later, shape⟩ := typeBody_cons fine
      rw [shape] at split
      obtain ⟨front, rfl, cut⟩ := skip_childless (not_child_of_newlines _) split
      cases front with
      | nil =>
          obtain ⟨same, behind⟩ := List.cons.inj cut
          cases same
          cases rest with
          | nil => simp [typeBody] at behind
          | cons next rest =>
              obtain ⟨_, _, shape'⟩ := typeBody_cons later
              rw [shape'] at behind
              obtain ⟨rfl, _, _⟩ := first_child (not_child_of_newlines _) childless behind
              rw [isTrivia_ofTypeMember]
              cases isTrivia member <;> rfl
      | cons piece front => exact ih later (List.cons.inj cut).2

/-- Between neighbours in a list there are the blank lines of the policy, and nothing else. -/
theorem listing_gap {parent : Node} (fine : flawed (listing policy parent) = false)
    (plain : parent.isEnum = false)
    (split : listing policy parent = front ++ .child first :: (between ++ .child second :: back))
    (childless : ∀ node, .child node ∉ between) :
    between = newlines (parent.blankLines policy first second) := by
  unfold listing at fine split
  unfold Node.blankLines
  split at split
  · exact namespaceMembers_gap split childless
  · exact namespaceMembers_gap split childless
  next declaration =>
      have members : declaration.kind ≠ .enumType := by simpa [Node.isEnum] using plain
      dsimp only at fine
      rw [if_neg members] at fine split
      exact typeBody_gap fine split childless
  · exact visitAll_gap split childless
  · exact visitAll_gap split childless
  · exact visitAll_gap split childless
  · exact visitAll_gap split childless
  · exact visitAll_gap split childless
  · simp at split

end Listing

section Sites

variable {policy : Policy} {frames : Frames} {node : Node}

theorem mem_held {pieces : List Piece} {child : Node} (member : .child child ∈ pieces) :
    (true, child) ∈ held pieces :=
  List.mem_filterMap.mpr ⟨.child child, member, rfl⟩

theorem not_child_of_held {pieces : List Piece} (none : held pieces = []) (child : Node) :
    .child child ∉ pieces :=
  fun member => by
    have found := mem_held member
    rw [none] at found
    cases found

theorem Settles.openBrace {ends : Node → Option Margin} (style : BraceStyle) :
    Settles ends .start (openBrace style) := by
  intro margin
  cases style <;> rfl

def BracedPlan.ahead (found : BracedPlan) : List Piece :=
  found.heading ++ (openBrace found.style ++ if found.flat then unindent else [])

def BracedPlan.behind (found : BracedPlan) : List Piece :=
  (if found.flat then indent else []) ++ (closeBrace found.style ++ found.closing)

theorem listing_shape {found : BracedPlan} (shape : bracedPlan? policy frames node = some found)
    (same : found.lines = listing policy node) (apart : ∀ child ∈ node.listed, .child child ∉ found.heading)
    (bare : held found.closing = []) :
    plan policy frames node = found.ahead ++ (listing policy node ++ found.behind) ∧
      (∀ child ∈ node.listed, .child child ∉ found.ahead) ∧ ∀ child, .child child ∉ found.behind := by
  refine ⟨?_, ?_, ?_⟩
  · rw [plan_of_braced shape, BracedPlan.pieces, braced, same, BracedPlan.ahead, BracedPlan.behind]
    cases found.flat <;> simp [outdentedIf]
  · intro child member inside
    rcases List.mem_append.mp inside with inHeading | inBrace
    · exact apart child member inHeading
    · refine not_child_of_held ?_ child inBrace
      cases found.flat <;> cases found.style <;> rfl
  · refine not_child_of_held ?_
    rw [BracedPlan.behind, held_append, held_append, bare]
    cases found.flat <;> cases found.style <;> rfl

theorem Settles.ahead {ends : Node → Option Margin} (found : BracedPlan) :
    Settles ends .start found.ahead := by
  refine ((Settles.openBrace _).followed ?_).after _
  cases found.flat <;> rfl

end Sites

end Layout

namespace Node

def isHeading : Node → Bool
  | .attributeSection _ => true
  | .parameter _ => true
  | .typeParameter _ => true
  | .constraint _ => true
  | .type _ => true
  | .expression _ => true
  | .arrayInitializer _ => true
  | .query _ => true
  | .pattern _ => true
  | _ => false

theorem isHeading_ofType (found : TypeRef) : (ofType found).isHeading = true := by cases found <;> rfl

theorem isHeading_ofExpression (found : Expression) :
    (ofExpression found).isHeading = true := by cases found <;> rfl

theorem isHeading_of_mem {α : Type} {view : α → Node} (heading : ∀ item, (view item).isHeading = true)
    {items : List α} {child : Node} (member : child ∈ items.map view) : child.isHeading = true := by
  obtain ⟨item, _, rfl⟩ := List.mem_map.mp member
  exact heading item

def hasBody : Node → Bool
  | .namespaceDeclaration _ => true
  | .typeDeclaration _ => true
  | .property _ => true
  | .indexer _ => true
  | .customEvent _ => true
  | .statement (.switch _ _) => true
  | .block _ => true
  | _ => false

end Node

namespace Layout

variable {policy : Policy} {frames : Frames} {node : Node}

/-- A body in braces holds the listed children, which are not in the heading. -/
theorem body_listing (owner : node.hasBody = true) :
    ∃ found, bracedPlan? policy frames node = some found ∧ found.lines = listing policy node ∧
      (∀ child ∈ node.listed, .child child ∉ found.heading) ∧ held found.closing = [] := by
  have disjoint {heading : List Piece} (headings : ∀ child, (true, child) ∈ held heading →
      child.isHeading = true)
      (members : ∀ child ∈ node.listed, child.isHeading = false) : ∀ child ∈ node.listed,
        .child child ∉ heading := by
    intro child member inside
    have here := headings child (mem_held inside)
    rw [members child member] at here
    cases here
  have accessor (accessors : List Accessor) : ∀ child ∈ Node.ofAccessors accessors,
      child.isHeading = false := by
    intro child member
    obtain ⟨found, _, rfl⟩ := List.mem_map.mp member
    rfl
  cases node with
  | namespaceDeclaration declaration =>
      refine ⟨_, rfl, rfl, fun child member inside => ?_, by simp⟩
      have here : child = Node.ofType declaration.name := by simpa using mem_held inside
      obtain ⟨found, _, rfl⟩ := List.mem_map.mp member
      cases found <;> cases name : declaration.name <;>
        simp [name, Node.ofNamespaceMember, Node.ofType] at here
  | typeDeclaration declaration =>
      refine ⟨_, rfl, rfl, disjoint (fun child inside => ?_) fun child member => ?_, by simp⟩
      · have parts : child ∈ Node.ofAttributes declaration.attributes ∨
            child ∈ Node.ofTypeParameters declaration.typeParameters ∨
            (true, child) ∈ held (if declaration.baseTypes.isEmpty then []
              else afterColon policy (Node.ofTypes declaration.baseTypes)) ∨
            child ∈ Node.ofConstraints declaration.constraints := by
          simpa [shown] using inside
        rcases parts with annotated | parameter | base | constraint
        · exact Node.isHeading_of_mem (fun _ => rfl) annotated
        · exact Node.isHeading_of_mem (fun _ => rfl) parameter
        · split at base
          · cases base
          · have listed : child ∈ Node.ofTypes declaration.baseTypes := by simpa [shown] using base
            exact Node.isHeading_of_mem Node.isHeading_ofType listed
        · exact Node.isHeading_of_mem (fun _ => rfl) constraint
      · obtain ⟨found, _, rfl⟩ := List.mem_map.mp member
        cases found <;> rfl
  | property declaration =>
      refine ⟨_, rfl, rfl, disjoint (fun child inside => ?_) (accessor _), rfl⟩
      have parts : child ∈ Node.ofAttributes declaration.attributes ∨
          child = Node.ofType declaration.returnType ∨
          child ∈ Node.ofType? declaration.explicitInterface := by
        simpa [shown] using inside
      rcases parts with annotated | rfl | interface
      · exact Node.isHeading_of_mem (fun _ => rfl) annotated
      · exact Node.isHeading_ofType _
      · exact Node.isHeading_of_mem Node.isHeading_ofType interface
  | indexer declaration =>
      refine ⟨_, rfl, rfl, disjoint (fun child inside => ?_) (accessor _), rfl⟩
      have parts : child ∈ Node.ofAttributes declaration.attributes ∨
          child = Node.ofType declaration.returnType ∨
          child ∈ Node.ofType? declaration.explicitInterface ∨
            child ∈ Node.ofParameters declaration.parameters := by
        simpa [shown] using inside
      rcases parts with annotated | rfl | interface | parameter
      · exact Node.isHeading_of_mem (fun _ => rfl) annotated
      · exact Node.isHeading_ofType _
      · exact Node.isHeading_of_mem Node.isHeading_ofType interface
      · exact Node.isHeading_of_mem (fun _ => rfl) parameter
  | customEvent declaration =>
      refine ⟨_, rfl, rfl, disjoint (fun child inside => ?_) (accessor _), rfl⟩
      have parts : child ∈ Node.ofAttributes declaration.attributes ∨
          child = Node.ofType declaration.returnType ∨
          child ∈ Node.ofType? declaration.explicitInterface := by
        simpa [shown] using inside
      rcases parts with annotated | rfl | interface
      · exact Node.isHeading_of_mem (fun _ => rfl) annotated
      · exact Node.isHeading_ofType _
      · exact Node.isHeading_of_mem Node.isHeading_ofType interface
  | block found =>
      refine ⟨_, rfl, rfl, fun _ _ => List.not_mem_nil, ?_⟩
      dsimp only
      split <;> rfl
  | statement found =>
      cases found with
      | switch operand sections =>
          refine ⟨_, rfl, rfl, disjoint (fun child inside => ?_) fun child member => ?_, rfl⟩
          · obtain rfl : child = Node.ofExpression operand := by simpa using inside
            exact Node.isHeading_ofExpression _
          · obtain ⟨found, _, rfl⟩ := List.mem_map.mp member
            rfl
      | _ => cases owner
  | _ => cases owner

theorem hasBody_or_tree (listed : node.listed ≠ []) :
    node.hasBody = true ∨ ∃ tree, node = .syntaxTree tree := by
  cases node with
  | syntaxTree tree => exact .inr ⟨tree, rfl⟩
  | statement found =>
      cases found with
      | switch operand sections => exact .inl rfl
      | _ => exact absurd rfl listed
  | namespaceDeclaration declaration => exact .inl rfl
  | typeDeclaration declaration => exact .inl rfl
  | property declaration => exact .inl rfl
  | indexer declaration => exact .inl rfl
  | customEvent declaration => exact .inl rfl
  | block found => exact .inl rfl
  | _ => exact absurd rfl listed

theorem plan_listing (listed : node.listed ≠ []) (fine : flawed (plan policy frames node) = false)
    (plain : ∀ child ∈ node.children, child.kind ≠ .pattern) :
    ∃ before after, plan policy frames node = before ++ (listing policy node ++ after) ∧
      Lined (Node.ending (some node)) (listing policy node) ∧
      pieceMargin (Node.ending (some node)) node.opening before = some .start ∧
      (∀ child ∈ node.listed, .child child ∉ before) ∧ ∀ child, .child child ∉ after := by
  rcases hasBody_or_tree listed with owner | ⟨tree, rfl⟩
  · obtain ⟨found, shape, same, apart, bare⟩ := body_listing owner
    obtain ⟨whole, ahead, behind⟩ := listing_shape shape same apart bare
    exact ⟨_, _, whole, same ▸ lined_of_braced shape fine plain, Settles.ahead found _, ahead, behind⟩
  · refine ⟨[], [], by simp [plan, listing], ?_, rfl, fun _ _ => List.not_mem_nil, fun _ => List.not_mem_nil⟩
    exact .namespaceMembers policy fun member => by cases member <;> rfl

end Layout

end CSharpLayout
