import CSharpLayout.Proofs.LineDiscipline
import CSharpLayout.Proofs.NeededSpaces

/-! How members and statements begin. At the start of a line they write a token right away, without another
line break or a change of the indentation; only a block in braces that are indented themselves moves its
first token further in. -/

namespace CSharpLayout

/-- Events with nothing written before a first token or space, which is `deeper` units of indentation
further in. -/
def Begins (deeper : Nat) (events : List Event) : Prop :=
  ∃ lead first rest, events = lead ++ first :: rest ∧ first.beginsText = true ∧
    (∀ event ∈ lead, event.writes = false) ∧ ∀ depth, level depth lead = some (depth + deeper)

structure Quiet (events : List Event) : Prop where
  silent : ∀ event ∈ events, event.writes = false
  balanced : Balanced events

theorem Quiet.boundary {event : Event} (boundary : event.isBoundary = true) : Quiet [event] := by
  cases event with
  | enter node => exact ⟨by simp [Event.writes, Event.isToken, Event.isBlank], fun _ => rfl⟩
  | leave node => exact ⟨by simp [Event.writes, Event.isToken, Event.isBlank], fun _ => rfl⟩
  | _ => cases boundary

theorem Quiet.append {left right : List Event} (first : Quiet left) (second : Quiet right) :
    Quiet (left ++ right) :=
  ⟨List.forall_mem_append.mpr ⟨first.silent, second.silent⟩, first.balanced.append second.balanced⟩

theorem lineStartAfter_of_silent {event : Event} (silent : event.writes = false) (atLineStart : Bool) :
    event.lineStartAfter atLineStart = atLineStart := by
  cases event with
  | enter node => rfl
  | leave node => rfl
  | indent => rfl
  | unindent => rfl
  | _ => cases silent

theorem lineStartAfterEvents_of_silent {events : List Event} (silent : ∀ event ∈ events, event.writes = false)
    (atLineStart : Bool) : lineStartAfterEvents atLineStart events = atLineStart := by
  induction events with
  | nil => rfl
  | cons event rest ih =>
      obtain ⟨first, others⟩ := List.forall_mem_cons.mp silent
      change lineStartAfterEvents (event.lineStartAfter atLineStart) rest = atLineStart
      rw [lineStartAfter_of_silent first, ih others]

namespace Begins

variable {deeper : Nat} {left right : List Event}

theorem of_first {first : Event} (begins : first.beginsText = true) (rest : List Event) :
    Begins 0 (first :: rest) :=
  ⟨[], first, rest, rfl, begins, List.forall_mem_nil _, fun _ => rfl⟩

theorem append (begins : Begins deeper left) (right : List Event) : Begins deeper (left ++ right) := by
  obtain ⟨lead, first, rest, rfl, text, silent, shift⟩ := begins
  exact ⟨lead, first, rest ++ right, by simp, text, silent, shift⟩

theorem behind (quiet : Quiet left) (begins : Begins deeper right) : Begins deeper (left ++ right) := by
  obtain ⟨lead, first, rest, rfl, text, silent, shift⟩ := begins
  refine ⟨left ++ lead, first,
    rest, by simp, text, List.forall_mem_append.mpr ⟨quiet.silent, silent⟩, fun depth => ?_⟩
  rw [level_append, quiet.balanced, Option.bind_some, shift]

theorem enter (begins : Begins deeper right) (node : Node) : Begins deeper (.enter node :: right) :=
  behind (.boundary rfl) begins

theorem indent (begins : Begins deeper right) : Begins (deeper + 1) (.indent :: right) := by
  obtain ⟨lead, first, rest, rfl, text, silent, shift⟩ := begins
  refine ⟨.indent :: lead, first, rest, rfl, text, List.forall_mem_cons.mpr ⟨rfl, silent⟩, fun depth => ?_⟩
  rw [level_cons]
  exact (shift (depth + 1)).trans (congrArg some (by omega))

end Begins

namespace Node

def isParameter : Node → Bool
  | .parameter _ => true
  | _ => false

def breaksQuery : Option Node → Bool
  | some (.queryClause (.continuation _ _)) => false
  | some (.queryClause _) => true
  | _ => false

def begins (parent : Option Node) : Node → Bool
  | .namespaceDeclaration _ => true
  | .usingDeclaration _ => true
  | .usingAlias _ => true
  | .externAlias _ => true
  | .typeDeclaration _ => true
  | .delegate _ => true
  | .attributeSection _ => true
  | .field _ => true
  | .fixedField _ => true
  | .method _ => true
  | .constructor _ => true
  | .destructor _ => true
  | .property _ => true
  | .indexer _ => true
  | .accessor _ => true
  | .event _ => true
  | .customEvent _ => true
  | .operator _ => true
  | .enumMember _ => true
  | .parameter _ => true
  | .type (.pattern _) => false
  | .type _ => true
  | .expression (.query _) => false
  | .expression (.pattern _) => false
  | .expression _ => true
  | .arrayInitializer _ => true
  | .query _ => !breaksQuery parent
  | .queryClause _ => true
  | .statement (.block _) => false
  | .statement .empty => false
  | .statement (.directive _) => false
  | .statement (.pattern _) => false
  | .statement _ => true
  | .variableDeclaration _ => true
  | .switchSection _ => true
  | .caseLabel _ => true
  | .comment _ => true
  | _ => false

theorem begins_ofType {parent : Option Node} {found : TypeRef} (plain : (ofType found).kind ≠ .pattern) :
    (ofType found).begins parent = true := by
  cases found with
  | pattern placeholder => exact absurd rfl plain
  | _ => rfl

theorem begins_ofExpression {parent : Option Node} {found : Expression} (calm : breaksQuery parent = false)
    (plain : (ofExpression found).kind ≠ .pattern) : (ofExpression found).begins parent = true := by
  cases found with
  | pattern placeholder => exact absurd rfl plain
  | query inner => simp [ofExpression, begins, calm]
  | _ => rfl

end Node

namespace Layout

def begins (parent : Node) : List Piece → Bool
  | [] => false
  | .event found :: _ => found.beginsText
  | .gap :: rest => begins parent rest
  | .freshLine :: rest => begins parent rest
  | .hidden _ :: rest => begins parent rest
  | .problem _ :: _ => true
  | .child node :: rest => node.begins (some parent) && (!node.isParameter || begins parent rest)

section Pieces

variable {parent : Node} {rest : List Piece}

theorem begins_identifier (frames : Frames) (name : Identifier) (tokenClass : TokenClass)
    (rest : List Piece) :
    begins parent (identifier frames name tokenClass ++ rest) = true := by
  unfold identifier
  split <;> rfl

theorem begins_modifiers (listed : List Modifier) (later : begins parent rest = true) :
    begins parent (modifiers listed ++ rest) = true := by
  cases listed with
  | nil => exact later
  | cons first others => rfl

theorem begins_leading (attributes : List AttributeSection) (listed : List Modifier)
    (later : begins parent rest = true) :
    begins parent (leading attributes listed ++ rest) = true := by
  cases attributes with
  | nil => exact begins_modifiers listed later
  | cons first others => rfl

theorem begins_ite {condition : Prop} [Decidable condition] {left right : List Piece}
    (first : begins parent (left ++ rest) = true) (second : begins parent (right ++ rest) = true) :
    begins parent ((if condition then left else right) ++ rest) = true := by
  split
  · exact first
  · exact second

theorem begins_around (spaced : Bool) (role : TokenRole) (text : String) (rest : List Piece) :
    begins parent (around spaced role text ++ rest) = true := by
  cases spaced <;> rfl

theorem begins_child {node : Node} (starts : node.begins (some parent) = true)
    (own : node.isParameter = false) :
    begins parent (.child node :: rest) = true := by
  change (node.begins (some parent) && (!node.isParameter || begins parent rest)) = true
  rw [starts, own]
  rfl

theorem begins_type {found : TypeRef} (plain : (Node.ofType found).kind ≠ .pattern) :
    begins parent (.child (Node.ofType found) :: rest) = true :=
  begins_child (Node.begins_ofType plain) (by cases found <;> rfl)

theorem begins_operand {found : Expression} (calm : Node.breaksQuery (some parent) = false)
    (plain : (Node.ofExpression found).kind ≠ .pattern) :
    begins parent (.child (Node.ofExpression found) :: rest) = true :=
  begins_child (Node.begins_ofExpression calm plain) (by cases found <;> rfl)

end Pieces

section Plans

variable {policy : Policy} {frames : Frames}

theorem begins_parameters {parent : Node} {rest : List Piece} (parameters : List Parameter)
    (later : begins parent rest = true) :
    begins parent (commaSeparated policy (Node.ofParameters parameters) ++ rest) = true := by
  match parameters with
  | [] => exact later
  | [only] => exact later
  | first :: second :: others =>
      have separated (behind : List Piece) : begins parent (comma policy false ++ behind) = true := by
        unfold comma spaceIf
        cases policy.spacing .beforeComma <;> rfl
      simp only [Node.ofParameters, List.map_cons, commaSeparated, List.append_assoc]
      exact separated _

theorem begins_lambda (parent : Node) (isAsync : Bool) (parameters : List Parameter) (body : LambdaBody) :
    begins parent (lambda policy isAsync parameters body) = true := by
  unfold lambda
  simp only [List.append_assoc]
  exact begins_ite rfl (begins_ite (begins_parameters parameters rfl) rfl)

theorem begins_arrayInitializer {parent : Node} {initializer : ArrayInitializer}
    (calm : Node.breaksQuery (some parent) = false)
    (plain : ∀ child ∈ Node.ofExpressions initializer.elements, child.kind ≠ .pattern) :
    begins parent (arrayInitializer policy frames initializer) = true := by
  unfold arrayInitializer
  split
  next single =>
      obtain ⟨elements, trailingComma, explicitBraces⟩ := initializer
      match elements with
      | [] => cases single
      | first :: others => exact begins_operand calm (plain _ List.mem_cons_self)
  next =>
      unfold initializerElements initializerBraces
      split <;> rfl

theorem begins_query {parent : Node} {found : Query} (outer : isNestedQuery frames = false) :
    begins parent (query frames found) = true := by
  unfold query
  split
  · rfl
  · rw [outer]
    rfl

theorem begins_expression {found : Expression} (starts : (Node.expression found).begins frames.parent? = true)
    (plain : ∀ child ∈ (Node.expression found).children, child.kind ≠ .pattern) :
    begins (.expression found) (expression policy frames found) = true := by
  have operand {inner : Expression} {rest : List Piece}
      (member : Node.ofExpression inner ∈ (Node.expression found).children) :
      begins (.expression found) (.child (Node.ofExpression inner) :: rest) = true :=
    begins_operand rfl (plain _ member)
  cases found with
  | anonymousMethod isAsync hasParameterList parameters body => cases isAsync <;> rfl
  | arrayInitializer initializer => exact begins_arrayInitializer rfl plain
  | asType inner targetType => exact operand (by simp [Node.children, Node.childrenOfExpression])
  | assignment left operator right => exact operand (by simp [Node.children, Node.childrenOfExpression])
  | binary left operator right => exact operand (by simp [Node.children, Node.childrenOfExpression])
  | conditional condition whenTrue whenFalse =>
      exact operand (by simp [Node.children, Node.childrenOfExpression])
  | identifier name typeArguments => exact begins_identifier ..
  | indexer target arguments => exact operand (by simp [Node.children, Node.childrenOfExpression])
  | invocation target arguments => exact operand (by simp [Node.children, Node.childrenOfExpression])
  | isType inner targetType => exact operand (by simp [Node.children, Node.childrenOfExpression])
  | lambda isAsync parameters body => exact begins_lambda ..
  | memberReference target name typeArguments =>
      exact operand (by simp [Node.children, Node.childrenOfExpression])
  | namedArgument name inner => simpa only [expression, List.append_assoc] using begins_identifier ..
  | named name inner => simpa only [expression, List.append_assoc] using begins_identifier ..
  | pointerReference target name typeArguments =>
      exact operand (by simp [Node.children, Node.childrenOfExpression])
  | typeReference targetType =>
      exact begins_type (plain _ (by simp [Node.children, Node.childrenOfExpression]))
  | unary operator inner =>
      change begins _ (unary operator inner) = true
      unfold unary
      split
      · rfl
      · split
        · exact operand (by simp [Node.children, Node.childrenOfExpression])
        · rfl
  | query inner => cases starts
  | pattern placeholder => cases starts
  | _ => rfl

theorem begins_typePlan {found : TypeRef} (starts : (Node.type found).begins frames.parent? = true)
    (plain : ∀ child ∈ (Node.type found).children, child.kind ≠ .pattern) :
    begins (.type found) (type policy frames found) = true := by
  cases found with
  | primitive keyword => rfl
  | simple name typeArguments => exact begins_identifier ..
  | member target isDoubleColon memberName typeArguments =>
      exact begins_type (plain _ (by simp [Node.children, Node.childrenOfType]))
  | composed baseType nullable pointerRank arraySpecifiers =>
      exact begins_type (plain _ (by simp [Node.children, Node.childrenOfType]))
  | pattern placeholder => cases starts

theorem begins_parameter {found : Parameter}
    (plain : ∀ child ∈ (Node.parameter found).children, child.kind ≠ .pattern) :
    begins (.parameter found) (parameter policy frames found) = true ∨
      parameter policy frames found = [] := by
  obtain ⟨attributes, modifier, parameterType, name, defaultExpression⟩ := found
  cases attributes with
  | cons first others => exact .inl rfl
  | nil =>
      cases modifier with
      | plain =>
          cases parameterType with
          | some found => exact .inl (begins_type (plain _ (by simp [Node.children, Node.ofType?])))
          | none =>
              cases name with
              | some name =>
                  exact .inl (begins_identifier frames name .parameter (assigned policy defaultExpression))
              | none =>
                  cases defaultExpression with
                  | some value => exact .inl (begins_around ..)
                  | none => exact .inr rfl
      | _ => exact .inl rfl

theorem begins_switchSection {parent : Node} {found : SwitchSection} :
    begins parent (switchSection policy found) = true := by
  obtain ⟨labels, statements⟩ := found
  match labels with
  | [] => rfl
  | [label] => rfl
  | first :: second :: others => rfl

theorem begins_variableDeclaration {parent : Node} {declaration : VariableDeclaration}
    (plain : (Node.ofType declaration.variableType).kind ≠ .pattern) :
    begins parent (variableDeclaration policy frames declaration) = true := by
  unfold variableDeclaration
  split
  · rfl
  · simp only [List.append_assoc]
    exact begins_modifiers _ (begins_type plain)

theorem begins_statement {found : Statement} (starts : (Node.statement found).begins frames.parent? = true)
    (plain : ∀ child ∈ (Node.statement found).children, child.kind ≠ .pattern) :
    begins (.statement found) (statement policy frames found) = true := by
  cases found with
  | block inner => cases starts
  | empty => cases starts
  | expression inner =>
      exact begins_operand rfl (plain _ (by simp [Node.children, Node.childrenOfStatement]))
  | fixed variableType declarators body =>
      change begins _ (if declarators.isEmpty then _ else _) = true
      split <;> rfl
  | forLoop initializers condition iterators body =>
      change begins _ (forLoop ..) = true
      unfold forLoop
      split <;> rfl
  | label name => simpa only [statement, List.append_assoc] using begins_identifier ..
  | localVariables declaration =>
      exact begins_variableDeclaration (plain _ (by simp [Node.children, Node.childrenOfStatement]))
  | directive inner => cases starts
  | pattern placeholder => cases starts
  | _ => rfl

/-- A plan begins with a token or a space, except that of a parameter without any text. -/
theorem begins_plan {node : Node} (starts : node.begins frames.parent? = true)
    (plain : ∀ child ∈ node.children, child.kind ≠ .pattern) :
    begins node (plan policy frames node) = true ∨ node.isParameter = true ∧
      plan policy frames node = [] := by
  have typed {found : TypeRef} {rest : List Piece} (member : Node.ofType found ∈ node.children) :
      begins node (.child (Node.ofType found) :: rest) = true := begins_type (plain _ member)
  cases node with
  | namespaceDeclaration declaration => exact .inl rfl
  | usingDeclaration declaration => exact .inl rfl
  | usingAlias declaration => exact .inl rfl
  | externAlias declaration => exact .inl rfl
  | attributeSection found => exact .inl rfl
  | comment found => exact .inl rfl
  | parameter found => exact (begins_parameter plain).imp_right fun empty => ⟨rfl, empty⟩
  | type found => exact .inl (begins_typePlan starts plain)
  | expression found => exact .inl (begins_expression starts plain)
  | arrayInitializer initializer => exact .inl (begins_arrayInitializer rfl plain)
  | query found =>
      have outer : Node.breaksQuery frames.parent? = false := by simpa [Node.begins] using starts
      exact .inl (begins_query outer)
  | queryClause clause => cases clause <;> exact .inl rfl
  | statement found => exact .inl (begins_statement starts plain)
  | variableDeclaration declaration =>
      exact .inl (begins_variableDeclaration (plain _ (by simp [Node.children])))
  | switchSection found => exact .inl begins_switchSection
  | caseLabel label =>
      obtain ⟨expression⟩ := label
      cases expression <;> exact .inl rfl
  | typeDeclaration declaration =>
      left
      simp only [plan, typeDeclaration, List.append_assoc]
      exact begins_leading _ _ rfl
  | delegate declaration =>
      left
      simp only [plan, delegate, List.append_assoc]
      exact begins_leading _ _ rfl
  | field declaration =>
      left
      simp only [plan, field]
      split
      · rfl
      · exact begins_leading _ _ (typed (by simp [Node.children]))
  | fixedField declaration =>
      left
      simp only [plan, fixedField, List.append_assoc]
      split
      · rfl
      · exact begins_leading _ _ rfl
  | method declaration =>
      left
      simp only [plan, method, List.append_assoc]
      exact begins_leading _ _ (typed (by simp [Node.children]))
  | constructor declaration =>
      left
      simp only [plan, constructor, List.append_assoc]
      exact begins_leading _ _ (begins_identifier ..)
  | destructor declaration =>
      left
      simp only [plan, destructor, List.append_assoc]
      refine begins_leading _ _ ?_
      cases declaration.modifiers <;> rfl
  | property declaration =>
      left
      simp only [plan, property, List.append_assoc]
      exact begins_leading _ _ (typed (by simp [Node.children]))
  | indexer declaration =>
      left
      simp only [plan, indexer, List.append_assoc]
      exact begins_leading _ _ (typed (by simp [Node.children]))
  | accessor found =>
      left
      simp only [plan, accessor, List.append_assoc]
      split
      · rfl
      · exact begins_leading _ _ rfl
  | event declaration =>
      left
      simp only [plan, event, List.append_assoc]
      split
      · rfl
      · exact begins_leading _ _ rfl
  | customEvent declaration =>
      left
      simp only [plan, customEvent, List.append_assoc]
      exact begins_leading _ _ rfl
  | operator declaration =>
      left
      simp only [plan, operator, List.append_assoc]
      refine begins_leading _ _ ?_
      cases declaration.operator.token? with
      | some token => exact typed (by simp [Node.children])
      | none => rfl
  | enumMember member =>
      left
      simp only [plan, enumMember, List.append_assoc]
      exact begins_leading _ _ (begins_identifier ..)
  | _ => cases starts

end Plans

section Steps

variable {policy : Policy} {node : Node} {address : List Nat} {above : Frames}

theorem partSteps_begins
    (children : ∀ slot, ∀ child ∈ node.children, child.begins (some node) = true →
      firstFault? (steps policy child (slot :: address) (⟨node, address⟩ :: above)) = none →
      Begins 0 (settled true (steps policy child (slot :: address) (⟨node, address⟩ :: above))) ∨
        child.isParameter = true ∧
          Quiet (settled true (steps policy child (slot :: address) (⟨node, address⟩ :: above))))
    {slot : Nat} {pieces : List Piece} (taken : (held pieces).map Prod.snd <+: node.children.drop slot)
    (sound : firstFault? (partSteps policy node address above slot pieces) = none)
    (starts : begins node pieces = true) :
    Begins 0 (settled true (partSteps policy node address above slot pieces)) := by
  induction pieces generalizing slot with
  | nil => cases starts
  | cons piece rest ih =>
      obtain ⟨first, others⟩ := firstFault?_partSteps_cons sound
      obtain ⟨here, behind⟩ := taken_cons taken
      rw [partSteps_cons, settled_append]
      cases piece with
      | event event => exact .of_first starts _
      | gap => exact ih behind others starts
      | freshLine => exact ih behind others starts
      | problem problem => simp [pieceSteps] at first
      | hidden found => exact ih behind others starts
      | child found =>
          obtain ⟨present, rfl⟩ := here found rfl
          have both : (node.children[slot].begins (some node) &&
            (!node.children[slot].isParameter || begins node rest)) = true := starts
          obtain ⟨starts, later⟩ := Bool.and_eq_true_iff.mp both
          simp only [pieceSteps, if_pos present] at first ⊢
          rcases children slot _ (List.getElem_mem present) starts first with begun | ⟨parameter, quiet⟩
          · exact begun.append _
          -- a parameter without text leaves the line as it was, and the rest of the pieces begins there
          · have line : lineStartAfterSteps true
                (steps policy node.children[slot] (slot :: address) (⟨node, address⟩ :: above)) = true := by
              rw [← lineStartAfterEvents_settled, lineStartAfterEvents_of_silent quiet.silent]
            rw [line]
            exact Begins.behind quiet (ih behind others (by simpa [parameter] using later))

/-- A node that begins at the start of a line writes its first token there. -/
theorem steps_begins (plain : node.Every fun part => part.kind ≠ .pattern)
    (sound : firstFault? (steps policy node address above) = none)
    (starts : node.begins (Frames.parent? (⟨node, address⟩ :: above)) = true) :
    Begins 0 (settled true (steps policy node address above)) ∨
      node.isParameter = true ∧ Quiet (settled true (steps policy node address above)) := by
  induction node, address, above using steps_induct with
  | visit node address above ih =>
      rw [firstFault?_steps] at sound
      have children : ∀ child ∈ node.children, child.kind ≠ .pattern := plain.children
      rw [settled_steps]
      have planned : begins node (plan policy (⟨node, address⟩ :: above) node) = true ∨
          node.isParameter = true ∧ plan policy (⟨node, address⟩ :: above) node = [] :=
        begins_plan starts children
      rcases planned with begun | ⟨parameter, empty⟩
      · left
        refine Begins.enter (Begins.append (partSteps_begins (fun slot child member starts sound => ?_)
          (taken_of_sound sound ▸ List.prefix_rfl) sound begun) _) node
        exact ih slot child member (plain.child member) sound starts
      · right
        rw [empty]
        exact ⟨parameter, Quiet.append (.boundary rfl) (.boundary rfl)⟩

end Steps

end Layout

def BraceStyle.openShift : BraceStyle → Nat
  | .nextLineIndented => 1
  | .nextLineIndentedTwice => 1
  | _ => 0

def Node.shift (policy : Policy) (parent : Option Node) : Node → Nat
  | .block _ => (policy.braces (Layout.blockSite parent)).openShift
  | _ => 0

namespace Layout

variable {policy : Policy} {parent child : Node} {address : List Nat} {above : Frames}

theorem begins_of_listed (listed : child ∈ parent.listed) (plain : child.kind ≠ .pattern)
    (own : child.kind ≠ .preprocessorDirective) :
    child.begins (some parent) = true ∧ child.isParameter = false ∧ child.shift policy (some parent) = 0 ∨
      (∃ found, child = .block found) ∨ child = .statement .empty := by
  unfold Node.listed at listed
  split at listed
  · obtain ⟨found, _, rfl⟩ := List.mem_map.mp listed
    cases found with
    | directive found => exact absurd rfl own
    | _ => exact .inl ⟨rfl, rfl, rfl⟩
  · obtain ⟨found, _, rfl⟩ := List.mem_map.mp listed
    cases found with
    | directive found => exact absurd rfl own
    | _ => exact .inl ⟨rfl, rfl, rfl⟩
  · obtain ⟨found, _, rfl⟩ := List.mem_map.mp listed
    cases found with
    | directive found => exact absurd rfl own
    | _ => exact .inl ⟨rfl, rfl, rfl⟩
  · obtain ⟨found, _, rfl⟩ := List.mem_map.mp listed
    exact .inl ⟨rfl, rfl, rfl⟩
  · obtain ⟨found, _, rfl⟩ := List.mem_map.mp listed
    exact .inl ⟨rfl, rfl, rfl⟩
  · obtain ⟨found, _, rfl⟩ := List.mem_map.mp listed
    exact .inl ⟨rfl, rfl, rfl⟩
  · obtain ⟨found, _, rfl⟩ := List.mem_map.mp listed
    exact .inl ⟨rfl, rfl, rfl⟩
  · obtain ⟨found, _, rfl⟩ := List.mem_map.mp listed
    cases found with
    | block found => exact .inr (.inl ⟨found, rfl⟩)
    | empty => exact .inr (.inr rfl)
    | directive found => exact absurd rfl own
    | pattern placeholder => exact absurd rfl plain
    | _ => exact .inl ⟨rfl, rfl, rfl⟩
  · cases listed

theorem block_begins (found : Block) (slot : Nat) :
    Begins ((Node.block found).shift policy (some parent))
      (settled true (childSteps policy parent address above slot (.block found))) := by
  rw [childSteps, steps_eq, settled]
  refine Begins.enter ?_ _
  change Begins (policy.braces (blockSite (some parent))).openShift
    (settled true (partSteps policy (.block found) (slot :: address) (⟨parent, address⟩ :: above) 0
      (openBrace (policy.braces (blockSite (some parent))) ++ _ ++ _ ++ _) ++ _))
  cases policy.braces (blockSite (some parent)) with
  | nextLineIndented => exact Begins.indent (.of_first rfl _)
  | nextLineIndentedTwice => exact Begins.indent (.of_first rfl _)
  | _ => exact .of_first rfl _

theorem empty_begins (simple : parent.hasHeader = false) (slot : Nat) :
    Begins 0 (settled true (childSteps policy parent address above slot (.statement .empty))) := by
  rw [childSteps, steps_eq, settled]
  refine Begins.enter ?_ _
  change Begins 0 (settled true (partSteps policy _ _ _ 0 (semicolon _) ++ _))
  rw [semicolon, inHeader_of_plain simple]
  exact .of_first rfl _

theorem listed_begins {slot : Nat} (listed : child ∈ parent.listed)
    (plain : child.Every fun part => part.kind ≠ .pattern) (own : child.kind ≠ .preprocessorDirective)
    (sound : firstFault? (childSteps policy parent address above slot child) = none) :
    Begins (child.shift policy (some parent))
      (settled true (childSteps policy parent address above slot child)) := by
  rcases begins_of_listed listed plain.self own with ⟨starts, noParameter, still⟩ | ⟨found, rfl⟩ | rfl
  · rcases steps_begins plain sound starts with begun | ⟨parameter, _⟩
    · exact still ▸ begun
    · rw [noParameter] at parameter
      cases parameter
  · exact block_begins found slot
  · exact empty_begins (Node.hasHeader_of_listed listed) slot

end Layout

end CSharpLayout
