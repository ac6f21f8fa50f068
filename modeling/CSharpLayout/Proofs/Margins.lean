import CSharpLayout.Proofs.Visits

/-! How lines end. What stands behind the last token of a line is followed through a plan, and with it where
types, statements and members end: a type with its last token, a statement or a member with a line break. -/

namespace CSharpLayout

/-- The end of the line that is being written: whether the line holds a token, and the spaces behind its
last token. -/
structure Margin where
  written : Bool
  spaces : Nat
  deriving DecidableEq

namespace Margin

def start : Margin := ⟨false, 0⟩

def token : Margin := ⟨true, 0⟩

def spaced (margin : Margin) : Margin := ⟨margin.written, margin.spaces + 1⟩

def atStart (margin : Margin) : Bool := margin = start

end Margin

def Event.isNewline : Event → Bool
  | .newline => true
  | _ => false

def Event.marginAfter (margin : Margin) : Event → Margin
  | .enter _ => margin
  | .leave _ => margin
  | .indent => margin
  | .unindent => margin
  | .space => margin.spaced
  | .newline => .start
  | .directive _ _ => .start
  | .comment kind _ => if kind.endsLine then .start else .token
  | _ => .token

def marginAfter (margin : Margin) (events : List Event) : Margin := events.foldl Event.marginAfter margin

theorem marginAfter_append (margin : Margin) (left right : List Event) :
    marginAfter margin (left ++ right) = marginAfter (marginAfter margin left) right := List.foldl_append

def Step.marginAfter (margin : Margin) : Step → Margin
  | .event found => found.marginAfter margin
  | .gap => if margin.atStart then margin else margin.spaced
  | .freshLine => .start
  | _ => margin

def marginAfterSteps (margin : Margin) (steps : List Step) : Margin := steps.foldl Step.marginAfter margin

theorem marginAfterSteps_append (margin : Margin) (left right : List Step) :
    marginAfterSteps margin (left ++ right) = marginAfterSteps (marginAfterSteps margin left) right :=
  List.foldl_append

namespace Margin

theorem spaced_atStart (margin : Margin) : margin.spaced.atStart = false := by
  simp [atStart, spaced, start]

theorem atStart_iff {margin : Margin} : margin.atStart = true ↔ margin = start := decide_eq_true_iff

theorem atStart_after (margin : Margin) (event : Event) :
    (event.marginAfter margin).atStart = event.lineStartAfter margin.atStart := by
  cases event with
  | space => exact spaced_atStart margin
  | comment kind content =>
      cases ends : kind.endsLine with
      | false => simp [Event.marginAfter, Event.lineStartAfter, ends, atStart, start, token]
      | true => simp [Event.marginAfter, Event.lineStartAfter, ends, atStart]
  | _ => rfl

theorem atStart_marginAfter (margin : Margin) (events : List Event) :
    (marginAfter margin events).atStart = lineStartAfterEvents margin.atStart events := by
  induction events generalizing margin with
  | nil => rfl
  | cons event rest ih =>
      change (marginAfter (event.marginAfter margin) rest).atStart = _
      rw [ih, atStart_after]
      rfl

end Margin

theorem marginAfter_settled (margin : Margin) (steps : List Step) :
    marginAfter margin (settled margin.atStart steps) = marginAfterSteps margin steps := by
  induction steps generalizing margin with
  | nil => rfl
  | cons step rest ih =>
      cases step with
      | event event =>
          change marginAfter (event.marginAfter margin)
            (settled (event.lineStartAfter margin.atStart) rest) = _
          rw [← Margin.atStart_after, ih]
          rfl
      | gap =>
          cases line : margin.atStart with
          | true =>
              have same : Step.marginAfter margin .gap = margin := by simp [Step.marginAfter, line]
              change marginAfter margin (settled true rest) =
                marginAfterSteps (Step.marginAfter margin .gap) rest
              rw [same, ← line, ih]
          | false =>
              have same : Step.marginAfter margin .gap = margin.spaced := by simp [Step.marginAfter, line]
              change marginAfter margin.spaced (settled false rest) =
                marginAfterSteps (Step.marginAfter margin .gap) rest
              rw [same, ← Margin.spaced_atStart margin, ih]
      | freshLine =>
          have started := ih .start
          cases line : margin.atStart with
          | true =>
              obtain rfl := Margin.atStart_iff.mp line
              exact started
          | false => exact started
      | _ => exact ih margin

theorem marginAfter_visit (before : List Event) (node : Node) (steps : List Step) :
    marginAfter .start (before ++ .enter node :: settled (lineStartAfterEvents true before) steps) =
      marginAfterSteps (marginAfter .start before) steps := by
  have line : lineStartAfterEvents true before = (marginAfter .start before).atStart :=
    (Margin.atStart_marginAfter .start before).symm
  rw [marginAfter_append, line]
  change marginAfter (marginAfter .start before) (settled (marginAfter .start before).atStart _) = _
  rw [marginAfter_settled]

def Piece.marginAfter (ends : Node → Option Margin) (margin : Option Margin) : Piece → Option Margin
  | .event found =>
      if found.isToken || found.isNewline then some (found.marginAfter .start)
      else margin.map fun margin => found.marginAfter margin
  | .gap => margin.map fun margin => if margin.atStart then margin else margin.spaced
  | .freshLine => some .start
  | .child node => ends node
  | .hidden _ => margin
  | .problem _ => some .token

/-- What a token or a line break leaves does not depend on what was there. -/
theorem Event.marginAfter_of_resets {event : Event} (resets : (event.isToken || event.isNewline) = true)
    (margin other : Margin) : event.marginAfter margin = event.marginAfter other := by
  cases event with
  | enter node => cases resets
  | leave node => cases resets
  | indent => cases resets
  | unindent => cases resets
  | space => cases resets
  | _ => rfl

namespace Layout

section Pieces

variable (ends : Node → Option Margin)

def pieceMargin (margin : Option Margin) (pieces : List Piece) : Option Margin :=
  pieces.foldl (Piece.marginAfter ends) margin

theorem pieceMargin_append (margin : Option Margin) (left right : List Piece) :
    pieceMargin ends margin (left ++ right) = pieceMargin ends (pieceMargin ends margin left) right :=
  List.foldl_append

theorem pieceMargin_cons (margin : Option Margin) (piece : Piece) (rest : List Piece) :
    pieceMargin ends margin (piece :: rest) = pieceMargin ends (piece.marginAfter ends margin) rest := rfl

def Settles (reached : Margin) (pieces : List Piece) : Prop :=
  ∀ margin, pieceMargin ends margin pieces = some reached

variable {ends} {reached : Margin} {pieces : List Piece}

namespace Settles

theorem after (settles : Settles ends reached pieces) (before : List Piece) :
    Settles ends reached (before ++ pieces) := by
  intro margin
  rw [pieceMargin_append, settles]

theorem followed (settles : Settles ends reached pieces) {more : List Piece} {later : Margin}
    (next : pieceMargin ends (some reached) more = some later) : Settles ends later (pieces ++ more) := by
  intro margin
  rw [pieceMargin_append, settles, next]

theorem word (text : String) : Settles ends .token (word text) := fun _ => rfl

theorem symbol (role : TokenRole) (text : String) : Settles ends .token (symbol role text) := fun _ => rfl

theorem identifier (frames : Frames) (name : Identifier) (tokenClass : TokenClass) :
    Settles ends .token (identifier frames name tokenClass) := by
  intro margin
  unfold Layout.identifier
  split <;> rfl

theorem newline : Settles ends .start newline := fun _ => rfl

theorem visit {node : Node} (known : ends node = some reached) : Settles ends reached (visit node) :=
  fun _ => known

theorem semicolon {frames : Frames} (outside : inHeader frames = false) :
    Settles ends .start (semicolon frames) := by
  rw [Layout.semicolon, outside]
  exact newline.after _

theorem inParentheses (within : Bool) (body : List Piece) : Settles ends .token (inParentheses within body) :=
  (symbol _ _).after _

theorem inBrackets (within : Bool) (body : List Piece) : Settles ends .token (inBrackets within body) :=
  (symbol _ _).after _

theorem closeBrace (style : BraceStyle) : Settles ends .token (closeBrace style) := by
  intro margin
  cases style <;> rfl

end Settles

theorem pieceMargin_visitAll {nodes : List Node} (known : ∀ node ∈ nodes, ends node = some reached) :
    pieceMargin ends (some reached) (visitAll nodes) = some reached := by
  induction nodes with
  | nil => rfl
  | cons node rest ih =>
      change pieceMargin ends (ends node) (visitAll rest) = some reached
      rw [known node List.mem_cons_self]
      exact ih fun node member => known node (List.mem_cons_of_mem _ member)

theorem Settles.commaSeparated (policy : Policy) {nodes : List Node}
    (known : ∀ node ∈ nodes, ends node = some reached) (some : nodes ≠ []) :
    Settles ends reached (commaSeparated policy nodes) := by
  induction nodes with
  | nil => exact absurd rfl some
  | cons node rest ih =>
      cases rest with
      | nil => exact .visit (known node List.mem_cons_self)
      | cons next rest =>
          exact (ih (fun node member => known node (List.mem_cons_of_mem _ member))
            (List.cons_ne_nil _ _)).after _

theorem pieceMargin_chevronList (policy : Policy) (nodes : List Node) :
    pieceMargin ends (some .token) (chevronList policy nodes) = some .token := by
  unfold chevronList
  split
  · rfl
  · exact (Settles.symbol _ _).after _ _

end Pieces

section Steps

variable {policy : Policy} {node : Node} {address : List Nat} {above : Frames} {ends : Node → Option Margin}

/-- What is known of the margin is so, if it is so of the children. -/
theorem partSteps_margin {slot : Nat} {pieces : List Piece}
    (children : ∀ index, slot ≤ index → ∀ child ∈ node.children, ∀ reached, ends child = some reached →
      firstFault? (steps policy child (index :: address) (⟨node, address⟩ :: above)) = none → ∀ margin,
      marginAfterSteps margin (steps policy child (index :: address) (⟨node, address⟩ :: above)) = reached)
    (taken : (held pieces).map Prod.snd <+: node.children.drop slot)
    (sound : firstFault? (partSteps policy node address above slot pieces) = none)
    {known : Option Margin} {margin reached : Margin} (agrees : known = none ∨ known = some margin)
    (ending : pieceMargin ends known pieces = some reached) :
    marginAfterSteps margin (partSteps policy node address above slot pieces) = reached := by
  induction pieces generalizing slot known margin with
  | nil =>
      change known = some reached at ending
      rcases agrees with rfl | rfl
      · cases ending
      · exact Option.some.inj ending
  | cons piece rest ih =>
      obtain ⟨first, others⟩ := firstFault?_partSteps_cons sound
      obtain ⟨here, behind⟩ := taken_cons taken
      rw [partSteps_cons, marginAfterSteps_append]
      rw [pieceMargin_cons] at ending
      have later := fun index (after : slot + 1 ≤ index) => children index (by omega)
      cases piece with
      | event event =>
          refine ih children behind others ?_ ending
          simp only [Piece.marginAfter]
          split
          next resets => exact .inr (congrArg some (event.marginAfter_of_resets resets _ _))
          next =>
            rcases agrees with rfl | rfl
            · exact .inl rfl
            · exact .inr rfl
      | gap =>
          refine ih children behind others ?_ ending
          rcases agrees with rfl | rfl
          · exact .inl rfl
          · exact .inr rfl
      | freshLine => exact ih children behind others (.inr rfl) ending
      | problem problem => simp [pieceSteps] at first
      | hidden found => exact ih later behind others agrees ending
      | child found =>
          obtain ⟨present, rfl⟩ := here found rfl
          refine ih later behind others ?_ ending
          simp only [pieceSteps, if_pos present] at first ⊢
          cases ended : ends node.children[slot] with
          | none => exact .inl ended
          | some reached' =>
              right
              rw [children slot (Nat.le_refl _) _ (List.getElem_mem present) reached' ended first]
              exact ended

end Steps

end Layout

namespace Node

def hasHeader : Node → Bool
  | .statement (.forLoop _ _ _ _) => true
  | .statement (.usingResource (.declaration _) _) => true
  | _ => false

def attributeMargin : Option Node → Margin
  | some (.parameter _) => ⟨true, 1⟩
  | some (.typeParameter _) => ⟨true, 1⟩
  | _ => .start

/-- The margin that a node ends with, wherever it is known from the node and its parent. Statements in the
header of their parent are not meant. -/
def ending (parent : Option Node) : Node → Option Margin
  | .namespaceDeclaration _ => some .start
  | .usingDeclaration _ => some .start
  | .usingAlias _ => some .start
  | .externAlias _ => some .start
  | .typeDeclaration _ => some .start
  | .delegate _ => some .start
  | .attributeSection _ => some (attributeMargin parent)
  | .field _ => some .start
  | .fixedField _ => some .start
  | .method _ => some .start
  | .constructor _ => some .start
  | .constructorInitializer _ => some .token
  | .destructor _ => some .start
  | .property _ => some .start
  | .indexer _ => some .start
  | .accessor _ => some .start
  | .event _ => some .start
  | .customEvent _ => some .start
  | .operator _ => some .start
  | .constraint found => some ⟨true, if found.baseTypes.isEmpty then 1 else 0⟩
  | .type _ => some .token
  | .arraySpecifier _ => some .token
  | .statement (.block _) => none
  | .statement _ => some .start
  | .block _ => if parent.any isExpression then some .token else some .start
  | .variableDeclaration _ => some .start
  | .switchSection _ => some .start
  | .caseLabel _ => some .token
  | .catchClause _ => some .start
  | .comment _ => some .start
  | .directive _ => some .start
  | _ => none

variable {parent : Option Node}

theorem ending_ofType {found : TypeRef} (plain : (ofType found).kind ≠ .pattern) :
    (ofType found).ending parent = some .token := by
  cases found with
  | pattern placeholder => exact absurd rfl plain
  | _ => rfl

theorem ending_ofTypes {found : List TypeRef} (plain : ∀ node ∈ ofTypes found, node.kind ≠ .pattern) :
    ∀ node ∈ ofTypes found, node.ending parent = some .token := by
  intro node member
  obtain ⟨type, _, rfl⟩ := List.mem_map.mp member
  exact ending_ofType (plain _ member)

theorem ending_ofStatement {found : Statement} (outside : parent.any isExpression = false)
    (plain : (ofStatement found).kind ≠ .pattern) : (ofStatement found).ending parent = some .start := by
  cases found with
  | pattern placeholder => exact absurd rfl plain
  | block found => simp [ofStatement, ending, outside]
  | _ => rfl

theorem ending_ofStatements {found : List Statement} (outside : parent.any isExpression = false)
    (plain : ∀ node ∈ ofStatements found, node.kind ≠ .pattern) :
    ∀ node ∈ ofStatements found, node.ending parent = some .start := by
  intro node member
  obtain ⟨statement, _, rfl⟩ := List.mem_map.mp member
  exact ending_ofStatement outside (plain _ member)

end Node

namespace Layout

theorem inHeader_of_plain {node : Node} (plain : node.hasHeader = false) (child : Node) (slot : Nat)
    (address : List Nat) (above : Frames) :
    inHeader (⟨child, slot :: address⟩ :: ⟨node, address⟩ :: above) = false := by
  unfold inHeader
  simp only [Frames.parent?, Frames.slot?, List.getElem?_cons_succ, List.getElem?_cons_zero, Option.map_some,
    List.head?_cons, Option.bind_some]
  split
  next same _ => cases same; cases plain
  next same _ => cases same; cases plain
  next => rfl

theorem slots_eq_length (pieces : List Piece) : slots pieces = (held pieces).length := by
  induction pieces with
  | nil => rfl
  | cons piece rest ih =>
      cases piece with
      | child node =>
          rw [slots, List.countP_cons_of_pos rfl]
          exact congrArg (· + 1) ih
      | hidden node =>
          rw [slots, List.countP_cons_of_pos rfl]
          exact congrArg (· + 1) ih
      | _ => exact ih

section Endings

variable {policy : Policy} {frames : Frames}

theorem Settles.embedded {ends : Node → Option Margin} {body : Statement}
    (known : ends (Node.ofStatement body) = some .start) : Settles ends .start (embedded body) := by
  unfold Layout.embedded
  split
  · exact .visit known
  · exact ((Settles.visit known).after _).followed rfl

theorem Settles.memberBody {ends : Node → Option Margin} (outside : inHeader frames = false)
    (known : ∀ found, ends (.block found) = some .start) (body : Option Block) :
    Settles ends .start (memberBody frames body) := by
  cases body with
  | none => exact .semicolon outside
  | some found => exact .visit (known found)

theorem Settles.unless {ends : Node → Option Margin} {reached : Margin} {empty : Bool} {problem : Problem}
    {pieces : List Piece} (fine : flawed (if empty then fault problem else pieces) = false)
    (settles : Settles ends reached pieces) :
    Settles ends reached (if empty then fault problem else pieces) := by
  cases empty with
  | false => exact settles
  | true => cases fine

theorem Settles.comment {ends : Node → Option Margin} (found : Comment) :
    Settles ends .start (comment found) := by
  intro margin
  rw [Layout.comment]
  cases line : found.kind.endsLine with
  | false => rfl
  | true => simp [pieceMargin, Piece.marginAfter, Event.isToken, Event.marginAfter, line]

theorem Settles.variableDeclaration {ends : Node → Option Margin} (outside : inHeader frames = false)
    {declaration : VariableDeclaration}
    (fine : flawed (variableDeclaration policy frames declaration) = false) :
    Settles ends .start (variableDeclaration policy frames declaration) :=
  .unless fine ((Settles.semicolon outside).after _)

theorem Settles.elseBranch {node : Node} (outside : node.isExpression = false) {whenFalse : Option Statement}
    (plain : ∀ child ∈ whenFalse.toList.map Node.ofStatement, child.kind ≠ .pattern) :
    pieceMargin (Node.ending (some node)) (some .start) (elseBranch whenFalse) = some .start := by
  cases whenFalse with
  | none => rfl
  | some body =>
      have known : (Node.ofStatement body).ending (some node) = some .start :=
        Node.ending_ofStatement outside (plain _ (by simp))
      unfold Layout.elseBranch
      split
      next missing => cases missing
      next same =>
          cases same
          exact (Settles.visit known).after _ _
      next same =>
          cases same
          exact (Settles.embedded known).after _ _

theorem Settles.statement {found : Statement} (outside : inHeader frames = false)
    (fine : flawed (statement policy frames found) = false)
    (plain : ∀ child ∈ (Node.statement found).children, child.kind ≠ .pattern)
    (self : (Node.statement found).kind ≠ .pattern) (simple : (Node.statement found).hasHeader = false)
    (noBlock : ∀ inner, found ≠ .block inner) :
    Settles (Node.ending (some (.statement found))) .start (statement policy frames found) := by
  have body {inner : Statement} (member : Node.ofStatement inner ∈ (Node.statement found).children) :
      (Node.ofStatement inner).ending (some (.statement found)) = some .start :=
    Node.ending_ofStatement rfl (plain _ member)
  have inBlock (inner : Block) : (Node.block inner).ending (some (.statement found)) = some .start := rfl
  have semicolon : Settles (Node.ending (some (.statement found))) .start (Layout.semicolon frames) :=
    .semicolon outside
  cases found with
  | block inner => exact absurd rfl (noBlock inner)
  | checked inner => exact (Settles.visit (inBlock inner)).after _
  | unchecked inner => exact (Settles.visit (inBlock inner)).after _
  | unsafeBlock inner => exact (Settles.visit (inBlock inner)).after _
  | empty => exact semicolon
  | fixed variableType declarators inner =>
      exact .unless fine
        ((Settles.embedded (body (by simp [Node.children, Node.childrenOfStatement]))).after _)
  | foreach variableType variableName inExpression inner =>
      exact (Settles.embedded (body (by simp [Node.children, Node.childrenOfStatement]))).after _
  | forLoop initializers condition iterators inner => cases simple
  | ifElse condition whenTrue whenFalse =>
      refine ((Settles.embedded (body (by simp [Node.children, Node.childrenOfStatement]))).after
        _).followed ?_
      exact Settles.elseBranch rfl fun child member => plain child (List.mem_append_right _ member)
  | label name => exact Settles.newline.after _
  | lock operand inner =>
      exact (Settles.embedded (body (by simp [Node.children, Node.childrenOfStatement]))).after _
  | switch operand sections => exact (Settles.newline.after _).after _
  | tryCatch tryBlock catchClauses finallyBlock =>
      have clauses : ∀ node ∈ catchClauses.map Node.catchClause,
          node.ending (some (.statement (.tryCatch tryBlock catchClauses finallyBlock))) = some .start := by
        intro node member
        obtain ⟨clause, _, rfl⟩ := List.mem_map.mp member
        rfl
      have caught :=
        ((Settles.visit (inBlock tryBlock)).after (Layout.word "try")).followed (pieceMargin_visitAll clauses)
      cases finallyBlock with
      | none => exact caught.followed rfl
      | some last => exact ((Settles.visit (inBlock last)).after (Layout.word "finally")).after _
  | usingResource resource inner =>
      exact (Settles.embedded (body (by simp [Node.children, Node.childrenOfStatement]))).after _
  | localVariables declaration => exact .variableDeclaration outside fine
  | whileLoop condition inner =>
      exact (Settles.embedded (body (by simp [Node.children, Node.childrenOfStatement]))).after _
  | comment inner => exact .comment inner
  | directive inner => exact fun _ => rfl
  | pattern placeholder => exact absurd rfl self
  | _ => exact semicolon.after _

theorem Settles.composed {ends : Node → Option Margin} {baseType : TypeRef} (nullable : Bool)
    (pointerRank : Nat) {arraySpecifiers : List ArraySpecifier}
    (base : ends (Node.ofType baseType) = some .token)
    (specifiers : ∀ node ∈ Node.ofSpecifiers arraySpecifiers, ends node = some .token) :
    Settles ends .token
      (Layout.visit (Node.ofType baseType) ++ (if nullable then Layout.symbol .nullable "?" else []) ++
        (List.replicate pointerRank (Layout.symbol .pointer "*")).flatten ++
          visitAll (Node.ofSpecifiers arraySpecifiers)) := by
  have marked : pieceMargin ends (some .token) (if nullable then Layout.symbol .nullable "?" else []) =
      some .token := by
    cases nullable <;> rfl
  have pointers : pieceMargin ends (some .token)
      (List.replicate pointerRank (Layout.symbol .pointer "*")).flatten =
      some .token := by
    induction pointerRank with
    | zero => rfl
    | succ count ih =>
        rw [List.replicate_succ, List.flatten_cons, pieceMargin_append]
        exact ih
  exact (((Settles.visit base).followed marked).followed pointers).followed (pieceMargin_visitAll specifiers)

theorem Settles.type {found : TypeRef} (plain : ∀ child ∈ (Node.type found).children, child.kind ≠ .pattern)
    (self : (Node.type found).kind ≠ .pattern) :
    Settles (Node.ending (some (.type found))) .token (type policy frames found) := by
  cases found with
  | primitive keyword => exact fun _ => rfl
  | simple name typeArguments => exact (Settles.identifier _ _ _).followed (pieceMargin_chevronList _ _)
  | member target isDoubleColon memberName typeArguments =>
      exact ((Settles.identifier _ _ _).after _).followed (pieceMargin_chevronList _ _)
  | composed baseType nullable pointerRank arraySpecifiers =>
      refine .composed _ _ (Node.ending_ofType (plain _ (by simp [Node.children, Node.childrenOfType]))) ?_
      intro node member
      obtain ⟨specifier, _, rfl⟩ := List.mem_map.mp member
      rfl
  | pattern placeholder => exact absurd rfl self

theorem Settles.attributeSection (found : AttributeSection) {ends : Node → Option Margin} :
    Settles ends (Node.attributeMargin frames.parent?) (attributeSection policy frames found) := by
  have tail : pieceMargin ends (some .token)
      (match frames.parent? with
        | some (.parameter _) => space
        | some (.typeParameter _) => space
        | _ => Layout.newline) = some (Node.attributeMargin frames.parent?) := by
    generalize frames.parent? = parent
    cases parent with
    | none => rfl
    | some node => cases node <;> rfl
  exact ((Settles.symbol _ _).after _).followed tail

theorem Settles.constraint {found : Constraint}
    (plain : ∀ child ∈ (Node.constraint found).children, child.kind ≠ .pattern) :
    Settles (Node.ending (some (.constraint found))) ⟨true, if found.baseTypes.isEmpty then 1 else 0⟩
      (constraint policy frames found) := by
  have types : ∀ node ∈ Node.ofTypes found.baseTypes, node.ending (some (.constraint found)) = some .token :=
    Node.ending_ofTypes plain
  rw [Layout.constraint, afterColon]
  cases found with
  | mk typeParameter baseTypes =>
      cases baseTypes with
      | nil => exact ((Settles.identifier _ _ _).after _).followed rfl
      | cons first rest =>
          exact ((Settles.commaSeparated policy types (List.cons_ne_nil _ _)).after _).after _

theorem Settles.switchSection {found : SwitchSection} (fine : flawed (switchSection policy found) = false)
    (plain : ∀ child ∈ (Node.switchSection found).children, child.kind ≠ .pattern) :
    Settles (Node.ending (some (.switchSection found))) .start (switchSection policy found) := by
  have statements : ∀ node ∈ Node.ofStatements found.statements, node.ending (some (.switchSection found)) =
      some .start :=
    Node.ending_ofStatements rfl fun child member => plain child (List.mem_append_right _ member)
  refine .unless fine (Settles.after ?_ _)
  split
  next single =>
      obtain ⟨labels, listed⟩ := found
      match listed, single with
      | [.block inner], _ => exact fun _ => rfl
  next =>
      split
      · exact ((Settles.newline.after _).followed (pieceMargin_visitAll statements)).followed rfl
      · exact Settles.newline.followed (pieceMargin_visitAll statements)

theorem Settles.plan {node : Node} {address : List Nat} {above : Frames}
    (outside : inHeader (⟨node, address⟩ :: above) = false)
    (fine : flawed (plan policy (⟨node, address⟩ :: above) node) = false)
    (plain : ∀ child ∈ node.children, child.kind ≠ .pattern) (self : node.kind ≠ .pattern)
    (simple : node.hasHeader = false) {reached : Margin}
    (ending : node.ending (Frames.parent? (⟨node, address⟩ :: above)) = some reached) :
    Settles (Node.ending (some node)) reached (plan policy (⟨node, address⟩ :: above) node) := by
  have semicolon : Settles (Node.ending (some node)) .start (Layout.semicolon (⟨node, address⟩ :: above)) :=
    .semicolon outside
  have member (known : ∀ found, (Node.block found).ending (some node) = some .start) (body : Option Block) :
      Settles (Node.ending (some node)) .start (Layout.memberBody (⟨node, address⟩ :: above) body) :=
    .memberBody outside known body
  cases node with
  | namespaceDeclaration declaration => cases ending; exact (Settles.newline.after _).after _
  | usingDeclaration declaration => cases ending; exact semicolon.after _
  | usingAlias declaration => cases ending; exact semicolon.after _
  | externAlias declaration => cases ending; exact semicolon.after _
  | typeDeclaration declaration => cases ending; exact (Settles.newline.after _).after _
  | delegate declaration => cases ending; exact semicolon.after _
  | attributeSection found => cases ending; exact .attributeSection found
  | field declaration => cases ending; exact .unless fine ((semicolon.after _).after _)
  | fixedField declaration => cases ending; exact .unless fine ((semicolon.after _).after _)
  | method declaration => cases ending; exact (member (fun _ => rfl) _).after _
  | constructor declaration => cases ending; exact (member (fun _ => rfl) _).after _
  | constructorInitializer initializer =>
      cases ending
      exact ((Settles.inParentheses _ _).after _).after _
  | destructor declaration => cases ending; exact (member (fun _ => rfl) _).after _
  | property declaration => cases ending; exact (Settles.newline.after _).after _
  | indexer declaration => cases ending; exact (Settles.newline.after _).after _
  | accessor found =>
      cases ending
      exact .unless fine ((member (fun _ => rfl) _).after _)
  | event declaration => cases ending; exact .unless fine ((semicolon.after _).after _)
  | customEvent declaration => cases ending; exact (Settles.newline.after _).after _
  | operator declaration => cases ending; exact (member (fun _ => rfl) _).after _
  | constraint found => cases ending; exact .constraint plain
  | type found => cases ending; exact .type plain self
  | arraySpecifier specifier =>
      cases ending
      change Settles _ _ (Layout.arraySpecifier specifier)
      unfold Layout.arraySpecifier
      split
      · exact fun _ => rfl
      · exact (Settles.symbol _ _).after _
  | statement found =>
      have ended (noBlock : ∀ inner, found ≠ .block inner) :
          Settles (Node.ending (some (.statement found))) .start
            (Layout.statement policy (⟨.statement found, address⟩ :: above) found) :=
        .statement outside fine plain self simple noBlock
      cases found with
      | block inner => cases ending
      | _ => cases ending; exact ended fun _ same => by cases same
  | block found =>
      change Settles _ _ (Layout.block _ _ _)
      rw [Node.ending] at ending
      rw [Layout.block]
      split at ending
      next inside =>
          cases ending
          rw [if_pos inside]
          exact ((Settles.closeBrace _).after _).followed rfl
      next outer =>
          cases ending
          rw [if_neg outer]
          exact Settles.newline.after _
  | variableDeclaration declaration => cases ending; exact .variableDeclaration outside fine
  | switchSection found => cases ending; exact .switchSection fine plain
  | caseLabel label => cases ending; exact (Settles.symbol _ _).after _
  | catchClause clause => cases ending; exact (Settles.visit rfl).after _
  | comment found => cases ending; exact .comment found
  | directive found => cases ending; exact fun _ => rfl
  | _ => cases ending

theorem plan_body {node : Node} {address : List Nat} {above : Frames}
    (fine : flawed (plan policy (⟨node, address⟩ :: above) node) = false) (headed : node.hasHeader = true) :
    ∃ front body, plan policy (⟨node, address⟩ :: above) node = front ++ embedded body ∧
      Node.ofStatement body ∈ node.children ∧ node.isExpression = false ∧
        (∀ parent, node.ending parent = some .start) ∧
      ∀ slot child, node.children.length ≤ slot + 1 →
        inHeader (⟨child, slot :: address⟩ :: ⟨node, address⟩ :: above) = false := by
  unfold Node.hasHeader at headed
  split at headed
  next initializers condition iterators body =>
      have shape : plan policy
          (⟨.statement (.forLoop initializers condition iterators body), address⟩ :: above)
          (.statement (.forLoop initializers condition iterators body)) =
            forLoop policy initializers condition iterators body := rfl
      rw [shape] at fine ⊢
      unfold forLoop at fine ⊢
      split at fine
      next => cases fine
      next fits =>
          rw [if_neg fits]
          refine ⟨_, body, rfl, by simp [Node.children, Node.childrenOfStatement], rfl, fun _ => rfl,
        fun slot child last => ?_⟩
          simp only [Node.children, Node.childrenOfStatement, Node.ofStatements, Node.ofExpression?,
            List.length_append, List.length_map, List.length_singleton] at last
          simp only [inHeader, Frames.parent?, Frames.slot?, List.getElem?_cons_succ, List.getElem?_cons_zero,
            Option.map_some, List.head?_cons, Option.bind_some, Bool.or_eq_false_iff, Bool.and_eq_false_iff,
            decide_eq_false_iff_not]
          omega
  next declaration body =>
      refine ⟨_, body, rfl, by simp [Node.children, Node.childrenOfStatement], rfl, fun _ => rfl,
        fun slot child last => ?_⟩
      simp only [Node.children, Node.childrenOfStatement, List.length_cons, List.length_nil] at last
      simp only [inHeader, Frames.parent?, Frames.slot?, List.getElem?_cons_succ, List.getElem?_cons_zero,
        Option.map_some, List.head?_cons, Option.bind_some, decide_eq_false_iff_not]
      omega
  next => cases headed

section Steps

variable {node : Node} {address : List Nat} {above : Frames}

/-- A node that is not in a header ends as expected. -/
theorem steps_margin (plain : node.Every fun part => part.kind ≠ .pattern)
    (sound : firstFault? (steps policy node address above) = none)
    (outside : inHeader (⟨node, address⟩ :: above) = false) {reached : Margin}
    (ending : node.ending (Frames.parent? (⟨node, address⟩ :: above)) = some reached) (margin : Margin) :
    marginAfterSteps margin (steps policy node address above) = reached := by
  induction node, address, above using steps_induct generalizing reached margin with
  | visit node address above ih =>
      rw [firstFault?_steps] at sound
      have children : ∀ child ∈ node.children, child.kind ≠ .pattern := plain.children
      have fine := flawed_of_sound sound
      have whole := taken_of_sound sound
      -- What is entered and left has no margin of its own.
      have body : marginAfterSteps margin (partSteps policy node address above 0
          (plan policy (⟨node, address⟩ :: above) node)) = reached := by
        cases headed : node.hasHeader with
        | false =>
            refine partSteps_margin (fun index _ child member reached ending sound margin => ?_)
              (whole ▸ List.prefix_rfl) sound (.inl rfl)
                (Settles.plan outside fine children plain.self headed ending none)
            exact ih index child member (plain.child member) sound (inHeader_of_plain headed _ _ _ _)
              ending margin
        | true =>
            -- The children in the header may end anywhere: the body behind them decides.
            obtain ⟨front, last, shape, member, noExpression, ends, behind⟩ := plan_body fine headed
            obtain rfl : reached = .start := Option.some.inj (ending.symm.trans (ends _))
            have known : (Node.ofStatement last).ending (some node) = some .start :=
              Node.ending_ofStatement noExpression (children _ member)
            rw [shape] at sound whole ⊢
            rw [partSteps_append, firstFault?_append, Option.or_eq_none_iff] at sound
            rw [held_append, List.map_append, List.drop_zero] at whole
            have length : slots front + 1 = node.children.length := by
              rw [slots_eq_length, ← whole]
              simp
            rw [partSteps_append, marginAfterSteps_append]
            refine partSteps_margin (fun index from_ child member reached ending sound margin => ?_) ?_
              sound.2
              (.inl rfl) (Settles.embedded known none)
            · exact ih index child member (plain.child member) sound (behind _ _ (by omega)) ending margin
            · have left : node.children.drop (0 + slots front) = (held (embedded last)).map Prod.snd := by
                rw [← whole, Nat.zero_add, List.drop_left' (by rw [List.length_map, slots_eq_length])]
              exact left ▸ List.prefix_rfl
      rw [steps_eq]
      exact (marginAfterSteps_append margin _ _).trans body

theorem part_margin (plain : node.Every fun part => part.kind ≠ .pattern) (simple : node.hasHeader = false)
    {slot : Nat} {pieces : List Piece} (taken : (held pieces).map Prod.snd <+: node.children.drop slot)
    (sound : firstFault? (partSteps policy node address above slot pieces) = none)
    {known : Option Margin} {margin reached : Margin} (agrees : known = none ∨ known = some margin)
    (ending : pieceMargin (Node.ending (some node)) known pieces = some reached) :
    marginAfterSteps margin (partSteps policy node address above slot pieces) = reached :=
  partSteps_margin (fun _ _ _ member _ ending sound margin =>
    steps_margin (plain.child member) sound (inHeader_of_plain simple _ _ _ _) ending margin)
    taken sound agrees ending

namespace PlannedVisit

variable {parent child : Node} {before upTo through after rest : List Event} {front back : List Piece}
    {reached : Margin}

theorem margin_front
    (visit : PlannedVisit policy before parent child upTo through after address above front back rest) :
    marginAfter .start upTo =
      marginAfterSteps (marginAfter .start before) (partSteps policy parent address above 0 front) := by
  rw [visit.start, marginAfter_visit]

theorem frontTaken
    (visit : PlannedVisit policy before parent child upTo through after address above front back rest) :
    (held front).map Prod.snd <+: parent.children.drop 0 := ⟨_, visit.taken⟩

theorem margin_upTo
    (visit : PlannedVisit policy before parent child upTo through after address above front back rest)
    (plain : parent.Every fun part => part.kind ≠ .pattern) (simple : parent.hasHeader = false)
    {known : Option Margin} (agrees : known = none ∨ known = some (marginAfter .start before))
    (ending : pieceMargin (Node.ending (some parent)) known front = some reached) :
    marginAfter .start upTo = reached := by
  rw [visit.margin_front]
  exact part_margin plain simple visit.frontTaken visit.frontSound agrees ending

theorem margin_through
    (visit : PlannedVisit policy before parent child upTo through after address above front back rest)
    (plain : parent.Every fun part => part.kind ≠ .pattern) (simple : parent.hasHeader = false)
    (ending : child.ending (some parent) = some reached) : marginAfter .start through = reached := by
  obtain ⟨present, rfl⟩ := visit.slot
  have line : lineStartAfterEvents true upTo = (marginAfter .start upTo).atStart :=
    (Margin.atStart_marginAfter .start upTo).symm
  rw [visit.finish, marginAfter_append, line, marginAfter_settled]
  exact steps_margin (plain.child (List.getElem_mem present)) visit.childSound
    (inHeader_of_plain simple _ _ _ _) ending _

end PlannedVisit

end Steps

end Endings

end Layout

theorem withSpaces_of_layout {events : List Event} (layout : ∀ event ∈ events, event.isToken = false)
    (last : LastWritten) : withSpaces last events = events := by
  induction events generalizing last with
  | nil => rfl
  | cons event rest ih =>
      rw [withSpaces_silent (layout event List.mem_cons_self),
        ih fun other member => layout other (List.mem_cons_of_mem _ member)]

namespace Page

theorem after_measured (policy : Policy) (events : List Event) : (after policy events).Measured := by
  have empty : (Page.ofPolicy policy "").Measured := ⟨rfl, rfl⟩
  rw [after_eq]
  exact empty.emitAll _

theorem after_lineEnding (policy : Policy) (events : List Event) :
    (after policy events).lineEnding = policy.lineEnding.text := by
  rw [after_eq]
  exact emitAll_lineEnding rfl _

theorem after_atLineStart (policy : Policy) (events : List Event) :
    (after policy events).atLineStart = (marginAfter .start events).atStart := by
  have empty : (Page.ofPolicy policy "").Measured := ⟨rfl, rfl⟩
  rw [after_eq, Margin.atStart_marginAfter]
  exact (empty.emitAll_line _).2.trans (lineStartAfterEvents_withSpaces events _ _)

theorem after_layout (policy : Policy) (events : List Event) {more : List Event}
    (layout : ∀ event ∈ more, event.isToken = false) :
    after policy (events ++ more) = Writer.emitAll (after policy events) more := by
  rw [after_eq, after_eq, withSpaces_append, withSpaces_of_layout layout]
  exact List.foldl_append

end Page

end CSharpLayout
