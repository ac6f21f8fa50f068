import CSharpLayout.Proofs.Bodies

/-! Where blocks begin. A block begins a line, or it is right behind the last token of a header; only a
constraint that lists no type leaves a space there. -/

namespace CSharpLayout

namespace Node

def endingIn (parent child : Node) : Option Margin :=
  if parent.hasHeader then none else child.ending (some parent)

section Blocks

variable {found : Block}

@[simp] theorem ofType_ne_block (type : TypeRef) :
    ofType type ≠ .block found := by cases type <;> simp [ofType]

@[simp] theorem ofExpression_ne_block (operand : Expression) : ofExpression operand ≠ .block found := by
  cases operand <;> simp [ofExpression]

@[simp] theorem block_ne_ofType (type : TypeRef) : .block found ≠ ofType type := (ofType_ne_block type).symm

@[simp] theorem block_ne_ofExpression (operand : Expression) : .block found ≠ ofExpression operand :=
  (ofExpression_ne_block operand).symm

@[simp] theorem ofNamespaceMember_ne_block (member : NamespaceMember) :
    ofNamespaceMember member ≠ .block found := by
  cases member <;> simp [ofNamespaceMember]

@[simp] theorem ofTypeMember_ne_block (member : TypeMember) : ofTypeMember member ≠ .block found := by
  cases member <;> simp [ofTypeMember]

theorem ofStatement_eq_block {statement : Statement} :
    ofStatement statement = .block found ↔ statement = .block found := by
  cases statement <;> simp [ofStatement]

end Blocks

def takesBlocks : Node → Bool
  | .method _ => true
  | .constructor _ => true
  | .destructor _ => true
  | .accessor _ => true
  | .operator _ => true
  | .expression _ => true
  | .statement _ => true
  | .block _ => true
  | .switchSection _ => true
  | .catchClause _ => true
  | .pattern _ => true
  | _ => false

theorem block_not_mem_children {parent : Node} (none : parent.takesBlocks = false) (found : Block) :
    .block found ∉ parent.children := by
  have swap (other : Node) : block found = other ↔ other = block found := eq_comm
  cases parent with
  | type type => cases type <;> simp [children, childrenOfType, ofTypes, ofSpecifiers, swap]
  | queryClause clause => cases clause <;> simp [children, childrenOfClause, ofType?, swap]
  | documentationReference reference =>
      by_cases operator : reference.symbolKind = .operator <;>
        simp [children, operator, ofTypes, ofParameters, ofType?]
  | method declaration => cases none
  | constructor declaration => cases none
  | destructor declaration => cases none
  | accessor found => cases none
  | operator declaration => cases none
  | expression found => cases none
  | statement found => cases none
  | block found => cases none
  | switchSection found => cases none
  | catchClause clause => cases none
  | pattern found => cases none
  | _ =>
      simp [children, ofTypes, ofExpressions, ofAttributes, ofParameters, ofTypeParameters,
        ofConstraints, ofVariables, ofAccessors, ofType?, ofExpression?, swap]

end Node

namespace Layout

theorem PlannedVisit.margin_ahead {policy : Policy} {before upTo through after rest : List Event}
    {parent child : Node} {address : List Nat} {above : Frames} {front back : List Piece} {reached : Margin}
    (visit : PlannedVisit policy before parent child upTo through after address above front back rest)
    (plain : parent.Every fun part => part.kind ≠ .pattern)
    (ending : pieceMargin parent.endingIn none front = some reached) : marginAfter .start upTo = reached := by
  cases headed : parent.hasHeader with
  | false =>
      have same : parent.endingIn = Node.ending (some parent) := by
        funext child
        simp [Node.endingIn, headed]
      exact visit.margin_upTo plain headed (.inl rfl) (same ▸ ending)
  | true =>
      -- What stands in a header does not end as it does elsewhere, so tokens alone tell the margin.
      have unknown (child : Node) : parent.endingIn child = none := by simp [Node.endingIn, headed]
      rw [visit.margin_front]
      refine partSteps_margin (fun _ _ child _ reached known => ?_) visit.frontTaken visit.frontSound
        (.inl rfl) ending
      rw [unknown] at known
      cases known

def spacesBehind (constraints : List Constraint) : Nat :=
  if constraints.getLast?.any fun last => last.baseTypes.isEmpty then 1 else 0

theorem pieceMargin_constraints (parent : Option Node) (constraints : List Constraint) :
    pieceMargin (Node.ending parent) (some .token) (visitAll (Node.ofConstraints constraints)) =
      some ⟨true, spacesBehind constraints⟩ := by
  rcases List.eq_nil_or_concat' constraints with rfl | ⟨front, last, rfl⟩
  · rfl
  · have shape : visitAll (Node.ofConstraints (front ++ [last])) =
        visitAll (Node.ofConstraints front) ++ visit (.constraint last) := by
      simp [visitAll, Node.ofConstraints, visit]
    rw [shape, pieceMargin_append]
    change (Node.constraint last).ending parent = _
    simp [Node.ending, spacesBehind]

end Layout

namespace Node

def headerSpaces (parent : Option Node) : Node → Nat
  | .typeDeclaration declaration => Layout.spacesBehind declaration.constraints
  | .block _ =>
      match parent with
      | some (.method declaration) => Layout.spacesBehind declaration.constraints
      | _ => 0
  | _ => 0

end Node

namespace Layout

section Blocks

variable {ends : Node → Option Margin} {holds : Margin → Prop} {known : Option Margin} {reached : Margin}
  {left right pieces : List Piece}

def Blockless (pieces : List Piece) : Prop := ∀ found, (true, Node.block found) ∉ held pieces

def BlocksAfter (ends : Node → Option Margin) (holds : Margin → Prop) (known : Option Margin)
    (pieces : List Piece) : Prop :=
  ∀ front found back, pieces = front ++ .child (.block found) :: back →
    ∃ reached, pieceMargin ends known front = some reached ∧ holds reached

namespace BlocksAfter

theorem of_blockless (none : Blockless pieces) : BlocksAfter ends holds known pieces := by
  rintro front found back rfl
  exact absurd (mem_held (by simp)) (none found)

theorem append (first : BlocksAfter ends holds known left)
    (second : BlocksAfter ends holds (pieceMargin ends known left) right) :
    BlocksAfter ends holds known (left ++ right) := by
  intro front found back split
  rcases append_cut split with ⟨rest, inLeft, _⟩ | ⟨start, inRight, rfl⟩
  · exact first _ _ _ inLeft
  · rw [pieceMargin_append]
    exact second _ _ _ inRight

theorem visit (node : Node) (good : holds reached) : BlocksAfter ends holds (some reached) (visit node) := by
  intro front found back split
  cases front with
  | nil => exact ⟨reached, rfl, good⟩
  | cons first front => simp [Layout.visit] at split

theorem visitAll {nodes : List Node} (ended : ∀ node ∈ nodes, ends node = some reached)
    (good : holds reached) :
    BlocksAfter ends holds (some reached) (visitAll nodes) := by
  induction nodes with
  | nil => exact of_blockless fun _ => List.not_mem_nil
  | cons node rest ih =>
      have first : BlocksAfter ends holds (some reached) (Layout.visit node) := visit node good
      have later := ih fun node member => ended node (List.mem_cons_of_mem _ member)
      rw [← ended node List.mem_cons_self] at later
      exact first.append later

theorem behind (none : Blockless left) (settles : Settles ends reached left)
    (next : BlocksAfter ends holds (some reached) right) : BlocksAfter ends holds known (left ++ right) :=
  append (of_blockless none) (settles known ▸ next)

theorem keyword (text : String) (next : BlocksAfter ends holds (some .token) right) :
    BlocksAfter ends holds known (word text ++ right) :=
  behind (fun _ => List.not_mem_nil) (.word text) next

theorem fault (problem : Problem) : BlocksAfter ends holds known (fault problem) :=
  of_blockless fun _ => List.not_mem_nil

theorem embedded (body : Statement) (good : holds reached) :
    BlocksAfter ends holds (some reached) (embedded body) := by
  cases body with
  | block found => exact visit _ good
  | _ => exact of_blockless fun _ => by simp [Layout.embedded, Node.ofStatement]

theorem memberBody (frames : Frames) (body : Option Block) (good : holds reached) :
    BlocksAfter ends holds (some reached) (memberBody frames body) := by
  cases body with
  | none => exact of_blockless fun _ => by simp [Layout.memberBody]
  | some found => exact visit _ good

theorem header (policy : Policy) (keyword : String) (before within : SpaceSite) {inside : List Piece}
    (none : Blockless inside) (body : Statement) (good : holds .token) :
    BlocksAfter ends holds known (header policy keyword before within inside ++ Layout.embedded body) :=
  behind (fun found => by simpa using none found) ((Settles.inParentheses _ _).after _) (embedded body good)

theorem elseBranch (whenFalse : Option Statement) (good : holds .token) :
    BlocksAfter ends holds known (elseBranch whenFalse) := by
  unfold Layout.elseBranch
  split
  · exact of_blockless fun _ => List.not_mem_nil
  · exact of_blockless fun _ => by simp [Node.ofStatement]
  next body _ => exact keyword _ (embedded body good)

theorem block {policy : Policy} {frames : Frames} {found : Block}
    (ended : ∀ node ∈ Node.ofStatements found.statements, ends node = some .start) (good : holds .start) :
    BlocksAfter ends holds known (block policy frames found) := by
  have opened : Blockless (openBrace (blockBraces policy frames)) := fun _ => by
    cases blockBraces policy frames <;> exact List.not_mem_nil
  have closed : Blockless (closeBrace (blockBraces policy frames)) := fun _ => by
    cases blockBraces policy frames <;> exact List.not_mem_nil
  refine append (append (behind opened (.openBrace _) (visitAll ended good)) (of_blockless closed))
    (of_blockless ?_)
  intro _
  split <;> exact List.not_mem_nil

end BlocksAfter

end Blocks

section Parents

variable {policy : Policy} {address : List Nat} {above : Frames} {found : Block}

theorem pieceMargin_hide {ends : Node → Option Margin} (margin : Option Margin) (nodes : List Node) :
    pieceMargin ends margin (hide nodes) = margin := by
  induction nodes with
  | nil => rfl
  | cons node rest ih => exact ih

theorem blocksAfter_expression {ends : Node → Option Margin} {holds : Margin → Prop} {known : Option Margin}
    {frames : Frames} (inner : Expression) (member : .block found ∈ (Node.expression inner).children)
    (good : holds .token) :
    BlocksAfter ends holds known (expression policy frames inner) := by
  cases inner with
  | anonymousMethod isAsync hasParameterList parameters body =>
      refine .behind (fun _ => ?_) (Settles.followed (Settles.after (.word _) _) ?_) (.visit _ good)
      · cases isAsync <;> cases hasParameterList <;> simp [shown, Node.ofParameters]
      · cases hasParameterList with
        | false => exact pieceMargin_hide _ _
        | true => exact (Settles.inParentheses _ _).after _ _
  | lambda isAsync parameters body =>
      cases body with
      | expression operand =>
          refine absurd member ?_
          simp [Node.children, Node.childrenOfExpression, Node.ofParameters, Node.ofLambdaBody]
      | block inner =>
          refine .behind (fun _ => ?_) (Settles.after (.symbol _ _) _) (.visit _ good)
          cases isAsync <;> cases isBareParameter parameters <;> simp [shown, Node.ofParameters]
  | _ =>
      refine absurd member ?_
      simp [Node.children, Node.childrenOfExpression, Node.ofTypes, Node.ofExpressions, Node.ofSpecifiers]

theorem blocksAfter_statement {holds : Margin → Prop} {known : Option Margin} {frames : Frames}
    (inner : Statement) (plain : ∀ child ∈ (Node.statement inner).children, child.kind ≠ .pattern)
    (member : .block found ∈ (Node.statement inner).children) (start : holds .start) (token : holds .token) :
    BlocksAfter (Node.statement inner).endingIn holds known (statement policy frames inner) := by
  cases inner with
  | block inner => exact .block (Node.ending_ofStatements rfl plain) start
  | checked body => exact .keyword _ (.visit _ token)
  | unchecked body => exact .keyword _ (.visit _ token)
  | unsafeBlock body => exact .keyword _ (.visit _ token)
  | doWhile body condition =>
      refine .append (.append (.keyword _ (.embedded body token)) ?_) ?_
      · exact .of_blockless fun _ => by simp
      · exact .of_blockless fun _ => by simp
  | fixed variableType declarators body =>
      change BlocksAfter _ _ _ (if _ then _ else _)
      split
      · exact .fault _
      · exact .header policy _ _ _ (fun _ => by simp [shown, Node.ofVariables]) body token
  | foreach variableType variableName inExpression body =>
      exact .header policy _ _ _ (fun _ => by simp) body token
  | forLoop initializers condition iterators body =>
      change BlocksAfter _ _ _ (if _ then _ else _)
      split
      · exact .fault _
      next fits =>
          have both : (initializers.all fitsHeader && iterators.all fitsHeader) = true := by simpa using fits
          obtain ⟨first, last⟩ := Bool.and_eq_true_iff.mp both
          have fitting {statements : List Statement} (fit : statements.all fitsHeader = true)
              (other : Block) :
              .block other ∉ Node.ofStatements statements := fun member => by
            obtain ⟨inner, inside, same⟩ := List.mem_map.mp member
            rw [Node.ofStatement_eq_block.mp same] at inside
            cases List.all_eq_true.mp fit _ inside
          refine .header policy _ _ _ (fun other => ?_) body token
          cases condition <;> cases iterators.isEmpty <;> simp [shown, fitting first, fitting last]
  | ifElse condition whenTrue whenFalse =>
      exact .append (.header policy _ _ _ (fun _ => by simp) whenTrue token) (.elseBranch whenFalse token)
  | lock operand body => exact .header policy _ _ _ (fun _ => by simp) body token
  | tryCatch tryBlock catchClauses finallyBlock =>
      refine .append (.append (.keyword _ (.visit _ token)) ?_) ?_
      · exact .of_blockless fun _ => by simp [shown]
      · cases finallyBlock with
        | none => exact .of_blockless fun _ => List.not_mem_nil
        | some last => exact .keyword _ (.visit _ token)
  | usingResource resource body =>
      exact .header policy _ _ _ (fun _ => by cases resource <;> simp [Node.ofUsingResource]) body token
  | whileLoop condition body => exact .header policy _ _ _ (fun _ => by simp) body token
  | _ =>
      refine absurd member ?_
      simp [Node.children, Node.childrenOfStatement, Node.ofExpression?, Node.ofVariables]

theorem Settles.lines {ends : Node → Option Margin} {nodes : List Node}
    (known : ∀ node ∈ nodes, ends node = some .token) (some : nodes ≠ []) :
    Settles ends .token (lines nodes) := by
  induction nodes with
  | nil => exact absurd rfl some
  | cons node rest ih =>
      cases rest with
      | nil => exact .visit (known node List.mem_cons_self)
      | cons next rest =>
          exact (ih (fun node member => known node (List.mem_cons_of_mem _ member))
            (List.cons_ne_nil _ _)).after _

theorem eq_of_isSingleBlock {statements : List Statement} (single : isSingleBlock statements = true) :
    ∃ found, statements = [.block found] := by
  unfold isSingleBlock at single
  split at single
  next found => exact ⟨found, rfl⟩
  next => cases single

theorem blocksAfter_section {holds : Margin → Prop} {known : Option Margin} (inner : SwitchSection)
    (plain : ∀ child ∈ (Node.switchSection inner).children, child.kind ≠ .pattern) (start : holds .start)
    (token : holds .token) :
    BlocksAfter (Node.switchSection inner).endingIn holds known (switchSection policy inner) := by
  have statements : ∀ node ∈ Node.ofStatements inner.statements, (Node.switchSection inner).endingIn node =
      some .start :=
    Node.ending_ofStatements rfl fun child member => plain child (List.mem_append_right _ member)
  change BlocksAfter _ _ _ (if _ then _ else _)
  split
  · exact .fault _
  next labelled =>
      have labels : Settles (Node.switchSection inner).endingIn .token
          (lines (inner.labels.map Node.caseLabel)) := by
        refine .lines (fun node member => ?_) (by simpa using labelled)
        obtain ⟨label, _, rfl⟩ := List.mem_map.mp member
        rfl
      refine .behind (fun _ => by simp [shown]) labels ?_
      -- The only statement of a section follows the label if it is a block.
      split
      next single =>
          obtain ⟨found, listed⟩ := eq_of_isSingleBlock single
          rw [listed]
          exact .visit _ token
      next =>
          split
          · refine .append (.behind (fun _ => List.not_mem_nil) (Settles.newline.after _)
              (.visitAll statements start)) ?_
            exact .of_blockless fun _ => List.not_mem_nil
          · exact .behind (fun _ => List.not_mem_nil) .newline (.visitAll statements start)

theorem blocksAfter_catch {ends : Node → Option Margin} {holds : Margin → Prop} {known : Option Margin}
    {frames : Frames} (clause : CatchClause) (token : holds .token) :
    BlocksAfter ends holds known (catchClause policy frames clause) := by
  refine .behind (fun _ => ?_) (Settles.followed (?_ : Settles _ .token _) ?_) (.visit _ token)
  · cases clause.catchType <;> cases clause.condition <;> cases clause.variableName <;> simp
  · cases clause.catchType with
    | none => exact .word _
    | some found => exact (Settles.inParentheses _ _).after _
  · cases clause.condition with
    | none => rfl
    | some found => exact ((Settles.inParentheses _ _).after _).after _ _

theorem blocksAfter_plan {parent : Node}
    (plain : parent.Every fun part => part.kind ≠ .pattern) (member : .block found ∈ parent.children) :
    BlocksAfter parent.endingIn
      (fun margin => margin = .start ∨ margin = ⟨true, (Node.block found).headerSpaces (some parent)⟩) none
      (plan policy (⟨parent, address⟩ :: above) parent) := by
  have children : ∀ child ∈ parent.children, child.kind ≠ .pattern := plain.children
  cases parent with
  | method declaration =>
      refine .behind (fun _ => ?_) (((Settles.inParentheses _ _).after _).followed ?_)
        (.memberBody _ _ (.inr rfl))
      · simp [shown, Node.ofAttributes, Node.ofParameters, Node.ofTypeParameters, Node.ofConstraints,
          Node.ofType?]
      · exact pieceMargin_constraints (some (.method declaration)) declaration.constraints
  | constructor declaration =>
      refine .behind (fun _ => ?_) (((Settles.inParentheses _ _).after _).followed ?_)
        (.memberBody _ _ (.inr rfl))
      · cases declaration.initializer <;> simp [shown, Node.ofAttributes, Node.ofParameters]
      · cases declaration.initializer <;> rfl
  | destructor declaration =>
      refine .behind (fun _ => ?_) ((Settles.inParentheses _ _).after _) (.memberBody _ _ (.inr rfl))
      simp [shown, Node.ofAttributes]
  | accessor inner =>
      change BlocksAfter _ _ _ (if _ then _ else _)
      split
      · exact .fault _
      · refine .behind (fun _ => ?_) (Settles.after (fun _ => rfl) _) (.memberBody _ _ (.inr rfl))
        simp [shown, Node.ofAttributes]
  | operator declaration =>
      refine .behind (fun _ => ?_) ((Settles.inParentheses _ _).after _) (.memberBody _ _ (.inr rfl))
      cases declaration.operator.token? <;> simp [shown, Node.ofAttributes, Node.ofParameters]
  | block inner => exact .block (Node.ending_ofStatements rfl children) (.inl rfl)
  | statement inner => exact blocksAfter_statement inner children member (.inl rfl) (.inr rfl)
  | expression inner => exact blocksAfter_expression inner member (.inr rfl)
  | switchSection inner => exact blocksAfter_section inner children (.inl rfl) (.inr rfl)
  | catchClause clause => exact blocksAfter_catch clause (.inr rfl)
  | pattern inner => exact absurd rfl plain.self
  | _ => exact absurd member (Node.block_not_mem_children rfl found)

/-- A block that stays in the line of a header is right behind it. -/
theorem block_margin {policy : Policy} {found before later : List Event} {inner : Block} {root : Node}
    (plain : root.Every fun part => part.kind ≠ .pattern) (printed : events policy root = .ok found)
    (split : found = before ++ .enter (.block inner) :: later) (below : .block inner ≠ root)
    {spaces : Nat} (margin : marginAfter .start before = ⟨true, spaces⟩) :
    spaces = (Node.block inner).headerSpaces (openAfter [] before).head? := by
  obtain ⟨outer, parent, _, _, _, _, front, back, _, every, opened, _, visit⟩ :=
    events_inParent plain printed split below
  obtain ⟨reached, known, either⟩ := blocksAfter_plan every visit.member front inner back visit.shape
  rw [visit.margin_ahead every known] at margin
  rcases either with rfl | rfl
  · cases margin
  · rw [opened]
    exact (Margin.mk.inj margin).2.symm

end Parents

end Layout

end CSharpLayout
