import CSharpLayout.Proofs.Delimiters
import CSharpLayout.Proofs.Margins
import CSharpLayout.Proofs.OwnNames
import CSharpLayout.Proofs.Traversal

/-! Where statements end. The header of a `for` statement holds two semicolons and that of a `using`
statement none; every expression statement and variable declaration that is no direct part of such a header
ends with a semicolon and a line break. -/

namespace CSharpLayout

structure Tally where
  depth : Nat := 0
  semicolons : Nat := 0

namespace Tally

def afterRole (tally : Tally) : TokenRole → Tally
  | .openParen => { tally with depth := tally.depth + 1 }
  | .openBracket => { tally with depth := tally.depth + 1 }
  | .openBrace => { tally with depth := tally.depth + 1 }
  | .closeParen => { tally with depth := tally.depth - 1 }
  | .closeBracket => { tally with depth := tally.depth - 1 }
  | .closeBrace => { tally with depth := tally.depth - 1 }
  | .semicolon => if tally.depth = 0 then { tally with semicolons := tally.semicolons + 1 } else tally
  | _ => tally

def after (tally : Tally) : Event → Tally
  | .token role _ => tally.afterRole role
  | _ => tally

def afterAll (tally : Tally) (events : List Event) : Tally := events.foldl after tally

theorem afterAll_append (tally : Tally) (left right : List Event) :
    tally.afterAll (left ++ right) = (tally.afterAll left).afterAll right := List.foldl_append

end Tally

/-- The semicolons outside all parentheses, brackets and braces. -/
def outerSemicolons (events : List Event) : Nat := (({} : Tally).afterAll events).semicolons

/-- From `least` open delimiters on, the events close what they open and hold no semicolon that counts. -/
def Silent (least : Nat) (events : List Event) : Prop :=
  ∀ tally : Tally, least ≤ tally.depth → tally.afterAll events = tally

namespace Silent

variable {least : Nat} {left right events : List Event}

theorem nil : Silent least [] := fun _ _ => rfl

theorem append (first : Silent least left) (second : Silent least right) : Silent least (left ++ right) := by
  intro tally deep
  rw [Tally.afterAll_append, first tally deep, second tally deep]

theorem deeper {more : Nat} (silent : Silent least events) (lower : least ≤ more) : Silent more events :=
  fun tally deep => silent tally (Nat.le_trans lower deep)

theorem single {event : Event} (same : ∀ tally : Tally, least ≤ tally.depth → tally.after event = tally) :
    Silent least [event] := same

end Silent

def TokenRole.nests : TokenRole → Bool
  | .openParen => true
  | .openBracket => true
  | .openBrace => true
  | _ => false

theorem Silent.enclosed {opening closing : TokenRole} (nests : opening.nests = true)
    (closes : opening.closing? = some closing) (before after : String) {least : Nat} {body : List Event}
    (inside : Silent (least + 1) body) :
    Silent least (.token opening before :: (body ++ [.token closing after])) := by
  intro tally deep
  have opened : tally.after (.token opening before) = { tally with depth := tally.depth + 1 } := by
    cases opening <;> first | rfl | cases nests
  have closed : Tally.after { tally with depth := tally.depth + 1 } (.token closing after) = tally := by
    cases opening <;> cases closes <;> first | rfl | cases nests
  change (tally.after (.token opening before)).afterAll (body ++ [.token closing after]) = tally
  rw [Tally.afterAll_append, opened, inside _ (Nat.succ_le_succ deep)]
  exact closed

inductive Node.IsTerminated : Node → Prop
  | expression (found : Expression) : IsTerminated (.statement (.expression found))
  | declaration (found : VariableDeclaration) : IsTerminated (.variableDeclaration found)
  | localVariables (found : VariableDeclaration) : IsTerminated (.statement (.localVariables found))

/-- A statement with statements in its header: its keyword, the semicolons that part the header, and its
body. -/
inductive Statement.Headed : Statement → String → Nat → Statement → Prop
  | forLoop (initializers : List Statement) (condition : Option Expression) (iterators : List Statement)
      (body : Statement) : Headed (.forLoop initializers condition iterators body) "for" 2 body
  | usingResource (resource : UsingResource) (body : Statement) :
      Headed (.usingResource resource body) "using" 0 body

def Piece.isFlat (piece : Piece) : Bool := piece.isFixed || piece.isBlank

namespace Layout

section Pieces

variable (policy : Policy) (node : Node) (address : List Nat) (above : Frames)

def SilentPart (least : Nat) (pieces : List Piece) : Prop :=
  ∀ slot atLineStart, Silent least (settled atLineStart (partSteps policy node address above slot pieces))

def SilentChildren (least : Nat) (pieces : List Piece) : Prop :=
  ∀ slot found, .child found ∈ pieces → slot < node.children.length → ∀ atLineStart,
    Silent least (settled atLineStart (steps policy found (slot :: address) (⟨node, address⟩ :: above)))

variable {policy node address above} {least : Nat}

namespace SilentPart

theorem nil : SilentPart policy node address above least [] := fun _ _ => Silent.nil

theorem append {left right : List Piece} (first : SilentPart policy node address above least left)
    (second : SilentPart policy node address above least right) :
    SilentPart policy node address above least (left ++ right) := by
  intro slot atLineStart
  rw [partSteps_append, settled_append]
  exact (first slot atLineStart).append (second _ _)

theorem deeper {more : Nat} {pieces : List Piece} (silent : SilentPart policy node address above least pieces)
    (lower : least ≤ more) : SilentPart policy node address above more pieces :=
  fun slot atLineStart => (silent slot atLineStart).deeper lower

theorem event {found : Event} (same : ∀ tally : Tally, least ≤ tally.depth → tally.after found = tally) :
    SilentPart policy node address above least [.event found] :=
  fun _ _ => Silent.single same

theorem symbol {role : TokenRole} (text : String)
    (same : ∀ tally : Tally, least ≤ tally.depth → tally.afterRole role = tally) :
    SilentPart policy node address above least (symbol role text) := event same

theorem layout {pieces : List Piece} (layout : pieces.all Piece.isLayout = true) :
    SilentPart policy node address above least pieces := by
  induction pieces with
  | nil => exact nil
  | cons piece rest ih =>
      obtain ⟨first, others⟩ := Bool.and_eq_true_iff.mp layout
      change SilentPart policy node address above least ([piece] ++ rest)
      refine append ?_ (ih others)
      cases piece with
      | event found =>
          refine event fun tally _ => ?_
          cases found <;> first | rfl | cases first
      | gap => exact fun slot atLineStart => by cases atLineStart <;> exact fun _ _ => rfl
      | freshLine => exact fun slot atLineStart => by cases atLineStart <;> exact fun _ _ => rfl
      | _ => cases first

theorem around {before body after : List Piece} (first : before.all Piece.isLayout = true)
    (second : after.all Piece.isLayout = true) (inside : SilentPart policy node address above least body) :
    SilentPart policy node address above least (before ++ body ++ after) :=
  append (append (layout first) inside) (layout second)

theorem enclosed {opening closing : TokenRole} (nests : opening.nests = true)
    (closes : opening.closing? = some closing) (before after : String) {body : List Piece}
    (inside : SilentPart policy node address above (least + 1) body) :
    SilentPart policy node address above least
      (Layout.symbol opening before ++ body ++ Layout.symbol closing after) := by
  intro slot atLineStart
  rw [partSteps_append, partSteps_append, settled_append, settled_append]
  exact Silent.enclosed nests closes before after (inside _ _)

theorem braced (style : BraceStyle) {body : List Piece}
    (inside : SilentPart policy node address above (least + 1) body) :
    SilentPart policy node address above least (Layout.braced style body) := by
  obtain ⟨before, after, opened, layout, _, broken, _⟩ := openBrace_shape style
  obtain ⟨below, rest, closed, calm, still⟩ := closeBrace_shape style
  have braces : TokenRole.openBrace.closing? = some .closeBrace := rfl
  have middle := enclosed rfl braces "\x7b" "\x7d" (around broken (all_layout_of_shift calm) inside)
  have whole := around layout (all_layout_of_shift still) middle
  rw [Layout.braced, opened, closed]
  simpa only [List.append_assoc] using whole

end SilentPart

theorem SilentChildren.within {part whole : List Piece}
    (children : SilentChildren policy node address above least whole) (inside : part ⊆ whole) :
    SilentChildren policy node address above least part :=
  fun slot found asked => children slot found (inside asked)

theorem silentPart_fixed {piece : Piece} (children : SilentChildren policy node address above least [piece])
    (fixed : piece.isFixed = true) (quiet : 0 < least ∨ .semicolon ∉ signs [piece]) :
    SilentPart policy node address above least [piece] := by
  cases piece with
  | event found =>
      refine .event fun tally deep => ?_
      cases found with
      | token role text =>
          cases role with
          | semicolon =>
              rcases quiet with inside | none
              · exact if_neg (by omega)
              · exact absurd List.mem_cons_self none
          | _ => first | rfl | cases fixed
      | _ => rfl
  | child found =>
      intro slot atLineStart
      rw [partSteps_cons, partSteps_nil, List.append_nil, pieceSteps]
      split
      next present => exact children slot found List.mem_cons_self present atLineStart
      next => exact .nil
  | gap => cases fixed
  | freshLine => cases fixed
  | hidden found => exact fun _ _ => .nil
  | problem problem => exact fun _ _ => .nil

/-- A plan is silent if its children are, unless it has a semicolon of its own that counts. -/
theorem Matched.silentPart {p q : Policy} {left right : List Piece} (matched : Matched p q left right)
    (children : SilentChildren policy node address above least left)
    (quiet : 0 < least ∨ .semicolon ∉ signs left) : SilentPart policy node address above least left := by
  have within {part whole : List Piece} (inside : signs part ⊆ signs whole)
      (quiet : 0 < least ∨ .semicolon ∉ signs whole) : 0 < least ∨ .semicolon ∉ signs part :=
    quiet.imp_right fun none member => none (inside member)
  induction matched with
  | nil => exact .nil
  | append _ _ first second =>
      have before := children.within (List.subset_append_left ..)
      have behind := children.within (List.subset_append_right ..)
      refine .append (first before (within ?_ quiet)) (second behind (within ?_ quiet))
      · simp
      · simp
  | fixed found => exact silentPart_fixed children found quiet
  | blank every _ _ =>
      refine .layout (List.all_eq_true.mpr fun piece member => ?_)
      exact Piece.isLayout_of_isBlank (List.all_eq_true.mp every piece member)
  | indented deep _ _ ih =>
      obtain ⟨before, after, first, second, shape⟩ := indentedIf_shape deep
      rw [shape] at children quiet ⊢
      have inside := ih (children.within (by simp)) (within (by simp) quiet)
      exact .around (all_layout_of_shift first) (all_layout_of_shift second) inside
  | @delimited opening closing before after left right closes _ ih =>
      have inside := ih (children.within (by simp)) (within (by simp) quiet)
      cases nests : opening.nests with
      | true => exact .enclosed nests closes before after (inside.deeper (Nat.le_succ least))
      | false =>
          cases opening <;> cases closes <;> cases nests
          exact .append (.append (.symbol _ fun _ _ => rfl) inside) (.symbol _ fun _ _ => rfl)
  | @braced style _ flat _ left _ _ _ ih =>
      obtain ⟨before, after, first, second, shape⟩ := outdentedIf_shape flat
      rw [shape] at children quiet ⊢
      have deeper : left ⊆ Layout.braced style (before ++ left ++ after) := fun piece asked =>
        have shifted := List.mem_append_left after (List.mem_append_right before asked)
        List.mem_append_left _ (List.mem_append_right _ shifted)
      have inside := ih (children.within deeper) (within (by simp) quiet)
      exact .braced style (.around (all_layout_of_shift first) (all_layout_of_shift second)
        (inside.deeper (Nat.le_succ least)))

theorem silent_steps
    (children : SilentChildren policy node address above least (plan policy (⟨node, address⟩ :: above) node))
    (quiet : 0 < least ∨ .semicolon ∉ signs (plan policy (⟨node, address⟩ :: above) node))
    (atLineStart : Bool) :
    Silent least (settled atLineStart (steps policy node address above)) := by
  rw [settled_steps]
  have part := (Matched.plan (p := policy) (q := policy) (⟨node, address⟩ :: above) node).silentPart
    children quiet 0
  exact (Silent.single fun _ _ => rfl : Silent least [.enter node]).append
    ((part _).append (Silent.single fun _ _ => rfl : Silent least [.leave node]))

theorem silent_inside (policy : Policy) (node : Node) (address : List Nat) (above : Frames)
    (atLineStart : Bool) :
    Silent 1 (settled atLineStart (steps policy node address above)) := by
  induction node, address, above using steps_induct generalizing atLineStart with
  | visit node address above ih =>
      exact silent_steps (fun slot found asked present => ih slot found (mem_children_of_asked asked present))
        (.inl Nat.one_pos) atLineStart

end Pieces

section Nodes

def isContained : Node → Bool
  | .block _ => true
  | .pattern _ => true
  | node => isInline node

@[simp] theorem isContained_ofType (found : TypeRef) : isContained (Node.ofType found) = true := by
  cases found <;> rfl

@[simp] theorem isContained_ofExpression (found : Expression) :
    isContained (Node.ofExpression found) = true := by
  cases found <;> rfl

@[simp] theorem isContained_ofLambdaBody (body : LambdaBody) :
    isContained (Node.ofLambdaBody body) = true := by
  cases body with
  | expression found => exact isContained_ofExpression found
  | block found => rfl

@[simp] theorem isContained_block (found : Block) : isContained (.block found) = true := rfl

@[simp] theorem isContained_parameter (found : Parameter) : isContained (.parameter found) = true := rfl

@[simp] theorem isContained_arraySpecifier (found : ArraySpecifier) :
    isContained (.arraySpecifier found) = true := rfl

@[simp] theorem isContained_arrayInitializer (found : ArrayInitializer) :
    isContained (.arrayInitializer found) = true := rfl

@[simp] theorem isContained_query (found : Query) : isContained (.query found) = true := rfl

@[simp] theorem isContained_queryClause (found : QueryClause) : isContained (.queryClause found) = true := rfl

@[simp] theorem isContained_queryOrdering (found : QueryOrdering) :
    isContained (.queryOrdering found) = true := rfl

@[simp] theorem isContained_attributeSection (found : AttributeSection) :
    isContained (.attributeSection found) = true := rfl

@[simp] theorem isContained_attributeUse (found : Attribute) : isContained (.attributeUse found) = true := rfl

@[simp] theorem isContained_variableInitializer (found : VariableInitializer) :
    isContained (.variableInitializer found) = true := rfl

theorem contained_children {node : Node} (inline : isInline node = true) :
    node.children.all isContained = true := by
  cases node with
  | type found => cases found <;> simp [Node.children, Node.childrenOfType, Node.ofTypes, Node.ofSpecifiers]
  | expression found =>
      cases found <;> simp [Node.children, Node.childrenOfExpression, Node.ofTypes, Node.ofExpressions,
        Node.ofParameters, Node.ofSpecifiers]
  | queryClause clause => cases clause <;> simp [Node.children, Node.childrenOfClause, Node.ofType?]
  | _ =>
      simp_all [isInline, Node.children, Node.ofExpressions, Node.ofAttributes, Node.ofExpression?,
        Node.ofType?]

theorem contained_children_of_terminated {node : Node} (terminated : node.IsTerminated) :
    node.children.all isContained = true := by
  cases terminated <;> simp [Node.children, Node.childrenOfStatement, Node.ofVariables]

end Nodes

section Silence

variable {policy : Policy} {node : Node} {address : List Nat} {above : Frames}

theorem not_mem_names (texts : List String) : .semicolon ∉ texts.map Sign.name := by
  intro member
  obtain ⟨text, _, same⟩ := List.mem_map.mp member
  cases same

theorem silent_contained (own : node.IsOwnView) (plain : node.Every fun part => part.kind ≠ .pattern)
    (contained : isContained node = true) (atLineStart : Bool) :
    Silent 0 (settled atLineStart (steps policy node address above)) := by
  induction node, address, above using steps_induct generalizing atLineStart with
  | visit node address above ih =>
      cases inline : isInline node with
      | true =>
          refine silent_steps (fun slot found asked present atLineStart => ?_) (.inr ?_) atLineStart
          · have member := mem_children_of_asked asked present
            exact ih slot found member (Node.ownViews_children node _ member) (plain.child member)
              (List.all_eq_true.mp (contained_children inline) _ member) atLineStart
          · rw [signs_plan policy _ own inline]
            exact not_mem_names _
      | false =>
          cases node with
          | pattern placeholder => exact absurd rfl plain.self
          | block found =>
              have statements : SilentPart policy (.block found) address above 1
                  (visitAll (Node.ofStatements found.statements)) :=
                (Matched.visitAll (p := policy) (q := policy) _).silentPart
                  (fun _ _ _ _ => silent_inside policy _ _ _) (.inl Nat.one_pos)
              have last : SilentPart policy (.block found) address above 0
                  (if (Frames.parent? (⟨.block found, address⟩ :: above)).any Node.isExpression then []
                    else newline) := by
                split
                · exact .nil
                · exact .layout rfl
              have part : SilentPart policy (.block found) address above 0
                  (block policy (⟨.block found, address⟩ :: above) found) :=
                (SilentPart.braced _ statements).append last
              rw [settled_steps]
              exact (Silent.single fun _ _ => rfl : Silent 0 [.enter (.block found)]).append
                ((part 0 _).append (Silent.single fun _ _ => rfl : Silent 0 [.leave (.block found)]))
          | _ => cases inline.symm.trans contained

theorem silent_inHeader (plain : node.Every fun part => part.kind ≠ .pattern) (terminated : node.IsTerminated)
    (inside : inHeader (⟨node, address⟩ :: above) = true) (atLineStart : Bool) :
    Silent 0 (settled atLineStart (steps policy node address above)) := by
  have none : stop (⟨node, address⟩ :: above) = [] := if_pos inside
  refine silent_steps (fun slot found asked present atLineStart => ?_) (.inr ?_) atLineStart
  · have member := mem_children_of_asked asked present
    exact silent_contained (Node.ownViews_children node _ member) (plain.child member)
      (List.all_eq_true.mp (contained_children_of_terminated terminated) _ member) atLineStart
  · cases terminated <;> simp [plan, statement, none]

end Silence

section Flat

variable {policy : Policy} {node : Node} {address : List Nat} {above : Frames}

theorem Matched.of_flat (policy : Policy) {pieces : List Piece} (flat : pieces.all Piece.isFlat = true) :
    Matched policy policy pieces pieces := by
  induction pieces with
  | nil => exact .nil
  | cons piece rest ih =>
      obtain ⟨first, others⟩ := Bool.and_eq_true_iff.mp flat
      rcases Bool.or_eq_true_iff.mp first with fixed | blank
      · exact .cons fixed (ih others)
      · have alone : [piece].all Piece.isBlank = true := by
          rw [List.all_cons, blank, List.all_nil, Bool.and_true]
        exact .append (.blank alone alone fun _ found => found) (ih others)

theorem flat_spaceIf (wanted : Bool) : (spaceIf wanted).all Piece.isFlat = true := by
  cases wanted <;> rfl

theorem flat_commaSeparated (policy : Policy) (nodes : List Node) :
    (commaSeparated policy nodes).all Piece.isFlat = true := by
  induction nodes with
  | nil => rfl
  | cons node rest ih =>
      cases rest with
      | nil => rfl
      | cons next others =>
          have comma : (comma policy false).all Piece.isFlat = true := by
            simp only [Layout.comma, List.all_append, flat_spaceIf, Bool.true_and, Bool.and_true]
            rfl
          rw [commaSeparated, List.all_append, List.all_append, comma, ih]
          · rfl
          · simp

/-- Without delimiters, all semicolons of a part count, and no others do if the children in it are silent. -/
theorem tally_partSteps {pieces : List Piece} (flat : pieces.all Piece.isFlat = true) {slot : Nat}
    (taken : (held pieces).map Prod.snd <+: node.children.drop slot)
    (children : ∀ index, index < slot + slots pieces → (present : index < node.children.length) →
      ∀ atLineStart,
      Silent 0 (settled atLineStart
        (steps policy node.children[index] (index :: address) (⟨node, address⟩ :: above))))
    (atLineStart : Bool) (counted : Nat) :
    Tally.afterAll ⟨0, counted⟩ (settled atLineStart (partSteps policy node address above slot pieces)) =
      ⟨0, counted + (signs pieces).count .semicolon⟩ := by
  induction pieces generalizing slot atLineStart counted with
  | nil => rfl
  | cons piece rest ih =>
      obtain ⟨first, others⟩ := Bool.and_eq_true_iff.mp flat
      obtain ⟨here, behind⟩ := taken_cons taken
      rw [slot_cons] at children
      have one : Tally.afterAll ⟨0, counted⟩
          (settled atLineStart (pieceSteps policy node address above slot piece)) =
          ⟨0, counted + (signs [piece]).count .semicolon⟩ := by
        cases piece with
        | event found =>
            cases found with
            | token role text => cases role <;> first | rfl | cases first
            | _ => rfl
        | gap => cases atLineStart <;> rfl
        | freshLine => cases atLineStart <;> rfl
        | child found =>
            obtain ⟨present, rfl⟩ := here found rfl
            have early : slot < slot + 1 + slots rest := by omega
            rw [pieceSteps, if_pos present]
            exact children slot early present atLineStart _ (Nat.zero_le _)
        | hidden found => rfl
        | problem problem => rfl
      have split : signs (piece :: rest) = signs [piece] ++ signs rest := signs_append [piece] rest
      rw [partSteps_cons, settled_append, Tally.afterAll_append, one, ih others behind children, split,
        List.count_append, Nat.add_assoc]

end Flat

section Headers

variable {policy : Policy} {statement body : Statement} {keyword : String} {count : Nat} {address : List Nat}
  {above : Frames}

def headerUpTo (keyword : String) (wanted : Bool) (parts : List Piece) : List Piece :=
  word keyword ++ spaceIf wanted ++ symbol .openParen "(" ++ parts

@[simp] theorem held_headerUpTo (keyword : String) (wanted : Bool) (parts : List Piece) :
    held (headerUpTo keyword wanted parts) = held parts := by
  simp [headerUpTo]

theorem slots_headerUpTo (keyword : String) (wanted : Bool) (parts : List Piece) :
    slots (headerUpTo keyword wanted parts) = slots parts := by
  rw [slots_eq_length, held_headerUpTo, slots_eq_length]

theorem headerUpTo_cut {wanted : Bool} {parts front more : List Piece} {node : Node}
    (cut : headerUpTo keyword wanted parts = front ++ .child node :: more) :
    ∃ earlier, front = headerUpTo keyword wanted earlier ∧ parts = earlier ++ .child node :: more := by
  rcases append_cut cut with ⟨rest, inOpening, _⟩ | ⟨earlier, rfl, rfl⟩
  · have member : .child node ∈ word keyword ++ spaceIf wanted ++ symbol .openParen "(" := by
      rw [inOpening]
      exact List.mem_append_right _ List.mem_cons_self
    cases wanted <;> simp [word, spaceIf, space, symbol] at member
  · exact ⟨earlier, rfl, rfl⟩

structure HeaderPlan (pieces : List Piece) (keyword : String) (count : Nat) (body : Statement) (wanted : Bool)
    (inside : List Piece) : Prop where
  shape : pieces = headerUpTo keyword wanted inside ++ (symbol .closeParen ")" ++ embedded body)
  flat : inside.all Piece.isFlat = true
  separated : (signs inside).count .semicolon = count

theorem headerPlan_header (policy : Policy) (before within : SpaceSite) {parts : List Piece}
    (flat : parts.all Piece.isFlat = true) (separated : (signs parts).count .semicolon = count) :
    ∃ wanted inside,
      HeaderPlan (header policy keyword before within parts ++ embedded body) keyword count body
        wanted inside := by
  refine ⟨policy.spacing before, spaceIf (policy.spacing within) ++ parts ++ spaceIf (policy.spacing within),
    ?_, ?_, ?_⟩
  · simp only [headerUpTo, header, inParentheses, enclosed, List.append_assoc]
  · rw [List.all_append, List.all_append, flat_spaceIf, flat]
    rfl
  · simpa using separated

theorem headed_plan (headed : statement.Headed keyword count body) {frames : Frames}
    (fine : flawed (plan policy frames (.statement statement)) = false) :
    ∃ wanted inside,
      HeaderPlan (plan policy frames (.statement statement)) keyword count body wanted inside := by
  cases headed with
  | usingResource resource => exact headerPlan_header policy _ _ rfl rfl
  | forLoop initializers condition iterators =>
      change flawed (forLoop policy initializers condition iterators body) = false at fine
      change ∃ wanted inside,
        HeaderPlan (forLoop policy initializers condition iterators body) _ _ _ wanted inside
      unfold forLoop at fine ⊢
      split at fine
      next => cases fine
      next fits =>
        rw [if_neg fits]
        apply headerPlan_header policy
        · cases condition <;> cases iterators <;>
            simp [flat_spaceIf, flat_commaSeparated, symbol, visit, Piece.isFlat,
            Piece.isFixed, TokenRole.isDelimiter]
        · cases condition <;> cases iterators <;> simp

theorem isTerminated_of_fitsHeader {found : Statement} (fits : fitsHeader found = true) :
    (Node.ofStatement found).IsTerminated := by
  cases found with
  | expression operand => exact .expression operand
  | localVariables declaration => exact .declaration declaration
  | _ => cases fits

theorem isTerminated_getElem {found : List Statement} (fits : found.all fitsHeader = true) {index : Nat}
    (present : index < (Node.ofStatements found).length) : (Node.ofStatements found)[index].IsTerminated := by
  have listed : index < found.length := by simpa [Node.ofStatements] using present
  simp only [Node.ofStatements, List.getElem_map]
  exact isTerminated_of_fitsHeader (List.all_eq_true.mp fits _ (List.getElem_mem listed))

theorem fitsHeader_of_sound {initializers iterators : List Statement} {condition : Option Expression}
    (fine : flawed (forLoop policy initializers condition iterators body) = false) :
    initializers.all fitsHeader = true ∧ iterators.all fitsHeader = true := by
  unfold forLoop at fine
  split at fine
  next => cases fine
  next fits => simpa using fits

theorem inHeader_forLoop {child : Node} {slot : Nat} {initializers iterators : List Statement}
    {condition : Option Expression} :
    inHeader (⟨child, slot :: address⟩ ::
        ⟨.statement (.forLoop initializers condition iterators body), address⟩ :: above) = true ↔
      slot < initializers.length ∨ initializers.length + condition.toList.length ≤ slot ∧
        slot < initializers.length + condition.toList.length + iterators.length := by
  simp [inHeader, Frames.parent?, Frames.slot?]

theorem headed_child (headed : statement.Headed keyword count body) {frames : Frames}
    (fine : flawed (plan policy frames (.statement statement)) = false) {index : Nat}
    (present : index < (Node.statement statement).children.length)
    (early : index + 1 < (Node.statement statement).children.length) :
    isContained (Node.statement statement).children[index] = true ∨
      (Node.statement statement).children[index].IsTerminated ∧
        ∀ child, inHeader (⟨child, index :: address⟩ :: ⟨.statement statement, address⟩ :: above) = true := by
  cases headed with
  | usingResource resource =>
      obtain rfl : index = 0 := Nat.lt_one_iff.mp (Nat.lt_of_succ_lt_succ early)
      cases resource with
      | expression found => exact .inl (isContained_ofExpression found)
      | declaration found => exact .inr ⟨.declaration found, fun _ => rfl⟩
  | forLoop initializers condition iterators =>
      obtain ⟨first, last⟩ := fitsHeader_of_sound fine
      simp only [Node.children, Node.childrenOfStatement] at present early ⊢
      simp only [inHeader_forLoop]
      have conditions : (Node.ofExpression? condition).length = condition.toList.length := List.length_map _
      have firsts : (Node.ofStatements initializers).length = initializers.length := List.length_map _
      have lasts : (Node.ofStatements iterators).length = iterators.length := List.length_map _
      simp only [List.length_append, List.length_singleton, conditions, firsts, lasts] at early
      -- The body is out of reach, so the slot is that of an initializer, of the condition or of an iterator.
      rw [List.getElem_append_left (by simp only [List.length_append]; omega)]
      rcases Nat.lt_or_ge index (initializers.length + condition.toList.length) with front | late
      · rw [List.getElem_append_left (by simp only [List.length_append]; omega)]
        rcases Nat.lt_or_ge index initializers.length with initial | middle
        · rw [List.getElem_append_left (by omega)]
          exact .inr ⟨isTerminated_getElem first _, fun _ => .inl initial⟩
        · rw [List.getElem_append_right (by omega)]
          left
          cases condition with
          | none => exact absurd front (by simpa using middle)
          | some found => simp [Node.ofExpression?]
      · rw [List.getElem_append_right (by simp only [List.length_append]; omega)]
        exact .inr ⟨isTerminated_getElem last _, fun _ => .inr ⟨late, by omega⟩⟩

theorem headed_silent (headed : statement.Headed keyword count body)
    (plain : (Node.statement statement).Every fun part => part.kind ≠ .pattern)
    (fine : flawed (plan policy (⟨.statement statement, address⟩ :: above) (.statement statement)) = false)
    {index : Nat} (present : index < (Node.statement statement).children.length)
    (early : index + 1 < (Node.statement statement).children.length) (atLineStart : Bool) :
    Silent 0 (settled atLineStart (steps policy (Node.statement statement).children[index] (index :: address)
      (⟨.statement statement, address⟩ :: above))) := by
  have member := List.getElem_mem present
  rcases headed_child headed fine present early with contained | ⟨terminated, inside⟩
  · exact silent_contained (Node.ownViews_children _ _ member) (plain.child member) contained atLineStart
  · exact silent_inHeader (plain.child member) terminated (inside _) atLineStart

theorem inHeader_last {parent : Node}
    (fine : flawed (plan policy (⟨parent, address⟩ :: above) parent) = false) {slot : Nat}
    (last : parent.children.length ≤ slot + 1) (child : Node) :
    inHeader (⟨child, slot :: address⟩ :: ⟨parent, address⟩ :: above) = false := by
  cases header : parent.hasHeader with
  | false => exact inHeader_of_plain header child slot address above
  | true =>
      obtain ⟨_, _, _, _, _, _, outside⟩ := plan_body fine header
      exact outside slot child last

theorem headed_of_inHeader {parent child : Node} {slot : Nat}
    (inside : inHeader (⟨child, slot :: address⟩ :: ⟨parent, address⟩ :: above) = true) :
    ∃ statement keyword count body, parent = .statement statement ∧ statement.Headed keyword count body := by
  cases header : parent.hasHeader with
  | false => cases inside.symm.trans (inHeader_of_plain header child slot address above)
  | true =>
      unfold Node.hasHeader at header
      split at header
      next initializers condition iterators body =>
        exact ⟨_, _, _, _, rfl, .forLoop initializers condition iterators body⟩
      next declaration body => exact ⟨_, _, _, _, rfl, .usingResource (.declaration declaration) body⟩
      next => cases header

end Headers

end Layout

/-- Events of a header from its keyword up to a place directly between its parentheses; `inside` is what
stands there before that place. -/
def OpensHeader (keyword : String) (inside events : List Event) : Prop :=
  ∃ gap, events = .keyword keyword :: (gap ++ .token .openParen "(" :: inside) ∧
    (∀ event ∈ gap, event = .space) ∧
    WellNested inside ∧ Paired (delimiters inside)

def EndsInHeader (events : List Event) : Prop :=
  ∃ outer statement keyword count body inside header, Statement.Headed statement keyword count body ∧
    events = outer ++ .enter (.statement statement) :: header ∧ OpensHeader keyword inside header

def Terminates (node : Node) (events : List Event) : Prop :=
  ∃ inner rest, events = inner ++ .token .semicolon ";" :: .newline :: .leave node :: rest ∧ WellNested inner

theorem Terminates.followed {node : Node} {events : List Event} (terminates : Terminates node events)
    (more : List Event) : Terminates node (events ++ more) := by
  obtain ⟨inner, rest, rfl, nested⟩ := terminates
  exact ⟨inner, rest ++ more, by simp, nested⟩

namespace Layout

section Steps

variable {policy : Policy} {node : Node} {address : List Nat} {above : Frames}

theorem terminated_plan (terminated : node.IsTerminated)
    (outside : inHeader (⟨node, address⟩ :: above) = false)
    (fine : flawed (plan policy (⟨node, address⟩ :: above) node) = false) :
    ∃ front, plan policy (⟨node, address⟩ :: above) node = front ++ (symbol .semicolon ";" ++ newline) := by
  have stopped : semicolon (⟨node, address⟩ :: above) = symbol .semicolon ";" ++ newline := by
    rw [semicolon, if_neg (by simp [outside])]
  have declared {declaration : VariableDeclaration}
      (fine : flawed (variableDeclaration policy (⟨node, address⟩ :: above) declaration) = false) :
      ∃ front, variableDeclaration policy (⟨node, address⟩ :: above) declaration =
        front ++ (symbol .semicolon ";" ++ newline) := by
    unfold variableDeclaration at fine ⊢
    split at fine
    next => cases fine
    next listed =>
      rw [if_neg listed, stopped]
      exact ⟨_, rfl⟩
  cases terminated with
  | expression found =>
      exact ⟨visit (Node.ofExpression found), congrArg (visit (Node.ofExpression found) ++ ·) stopped⟩
  | declaration found => exact declared fine
  | localVariables found => exact declared fine

/-- Outside of a header, expression statements and variable declarations end with a semicolon and a line
break. -/
theorem terminates_steps (terminated : node.IsTerminated)
    (outside : inHeader (⟨node, address⟩ :: above) = false)
    (sound : firstFault? (steps policy node address above) = none) (atLineStart : Bool) :
    ∃ after, settled atLineStart (steps policy node address above) = .enter node :: after ∧
      Terminates node after := by
  rw [firstFault?_steps] at sound
  obtain ⟨front, shape⟩ := terminated_plan terminated outside (flawed_of_sound sound)
  have calmFront : calm front = true := by
    have whole := calm_plan policy (⟨node, address⟩ :: above) node
    rw [shape, calm_append] at whole
    exact (Bool.and_eq_true_iff.mp whole).1
  have soundFront : firstFault? (partSteps policy node address above 0 front) = none := by
    have whole := sound
    rw [shape, partSteps_append, firstFault?_append, Option.or_eq_none_iff] at whole
    exact whole.1
  refine ⟨_, settled_steps .., settled atLineStart (partSteps policy node address above 0 front), [], ?_,
    partSteps_wellNested calmFront soundFront atLineStart⟩
  rw [shape, partSteps_append, settled_append, List.append_assoc]
  rfl

theorem terminates_embedded {body : Statement} (terminated : (Node.ofStatement body).IsTerminated)
    {slot : Nat} (present : slot < node.children.length)
    (outside : inHeader (⟨Node.ofStatement body, slot :: address⟩ :: ⟨node, address⟩ :: above) = false)
    (sound : firstFault? (partSteps policy node address above slot (embedded body)) = none)
    (atLineStart : Bool) :
    ∃ after, settled atLineStart (partSteps policy node address above slot (embedded body)) =
      .newline :: .indent :: .enter (Node.ofStatement body) :: after ∧
        Terminates (Node.ofStatement body) after := by
  have shape : embedded body = newline ++ indent ++ visit (Node.ofStatement body) ++ unindent := by
    cases body with
    | block found => cases terminated
    | _ => rfl
  have unfolded : partSteps policy node address above slot (embedded body) =
      .event .newline :: .event .indent ::
      (steps policy (Node.ofStatement body) (slot :: address) (⟨node, address⟩ :: above) ++
        [.event .unindent]) := by
    rw [shape]
    change .event .newline :: .event .indent ::
      (pieceSteps policy node address above slot (.child _) ++ _) = _
    rw [pieceSteps, if_pos present]
    rfl
  rw [unfolded] at sound ⊢
  rw [firstFault?_event, firstFault?_event, firstFault?_append, Option.or_eq_none_iff] at sound
  rw [settled, settled, settled_append]
  obtain ⟨after, written, terminates⟩ := terminates_steps terminated outside sound.1 true
  refine ⟨after ++ [.unindent], ?_, terminates.followed _⟩
  exact congrArg (fun events => .newline :: .indent :: (events ++ [.unindent])) written

theorem opensHeader_settled {keyword : String} {wanted : Bool} {parts : List Piece}
    (flat : parts.all Piece.isFlat = true)
    (sound : firstFault? (partSteps policy node address above 0 (headerUpTo keyword wanted parts)) = none)
    (atLineStart : Bool) :
    OpensHeader keyword (settled false (partSteps policy node address above 0 parts))
      (settled atLineStart (partSteps policy node address above 0 (headerUpTo keyword wanted parts))) := by
  have soundParts : firstFault? (partSteps policy node address above 0 parts) = none := by
    cases wanted <;> exact sound
  refine ⟨if wanted then [.space] else [], ?_, ?_,
    partSteps_wellNested (Matched.of_flat policy flat).calm soundParts false, ?_⟩
  · cases wanted <;> rfl
  · cases wanted <;> simp
  · rw [delimiters_settled]
    exact (Matched.of_flat policy flat).closed (fun _ _ _ _ => steps_paired policy _ _ _) 0

end Steps

namespace Visited

variable {policy : Policy} {before after rest : List Event} {node : Node} {statement body : Statement}
  {keyword : String} {count : Nat} {address : List Nat} {above : Frames} {wanted : Bool} {inside : List Piece}

theorem children_eq (visited : Visited policy [] true before (.statement statement) after address above rest)
    (planned : HeaderPlan (plan policy (⟨.statement statement, address⟩ :: above) (.statement statement))
      keyword count
      body wanted inside) :
    (Node.statement statement).children = (held inside).map Prod.snd ++ [Node.ofStatement body] := by
  have taken := taken_of_sound visited.sound
  rw [planned.shape, List.drop_zero] at taken
  simpa using taken.symm

theorem children_length
    (visited : Visited policy [] true before (.statement statement) after address above rest)
    (planned : HeaderPlan (plan policy (⟨.statement statement, address⟩ :: above) (.statement statement))
      keyword count
      body wanted inside) : (Node.statement statement).children.length = slots inside + 1 := by
  rw [visited.children_eq planned, slots_eq_length]
  simp

theorem headed (visited : Visited policy [] true before (.statement statement) after address above rest)
    (plain : (Node.statement statement).Every fun part => part.kind ≠ .pattern)
    (headed : statement.Headed keyword count body) :
    ∃ header inside later, after = header ++ .token .closeParen ")" :: later ∧
      OpensHeader keyword inside header ∧
      outerSemicolons inside = count ∧ ((Node.ofStatement body).IsTerminated → ∃ more,
        later = .newline :: .indent :: .enter (Node.ofStatement body) :: more ∧
          Terminates (Node.ofStatement body) more) := by
  have fine := flawed_of_sound visited.sound
  obtain ⟨wanted, inside, planned⟩ := headed_plan headed fine
  have children := visited.children_eq planned
  have length := visited.children_length planned
  have sound := visited.sound
  rw [planned.shape, partSteps_append, firstFault?_append, Option.or_eq_none_iff, slots_headerUpTo,
    Nat.zero_add] at sound
  refine ⟨_, _,
    settled false (partSteps policy (.statement statement) address above (slots inside) (embedded body)) ++
      .leave (.statement statement) :: rest, ?_,
    opensHeader_settled planned.flat sound.1 (lineStartAfterEvents true before), ?_, fun terminated => ?_⟩
  · rw [visited.body, planned.shape, partSteps_append, settled_append, slots_headerUpTo, Nat.zero_add,
      List.append_assoc]
    rfl
  · have silent (index : Nat) (early : index < 0 + slots inside)
        (present : index < (Node.statement statement).children.length) (atLineStart : Bool) :=
      headed_silent headed plain fine present (by omega) atLineStart
    have taken : (held inside).map Prod.snd <+: (Node.statement statement).children.drop 0 :=
      ⟨_, children.symm⟩
    rw [outerSemicolons, tally_partSteps planned.flat taken silent, planned.separated, Nat.zero_add]
  · have last : slots inside < (Node.statement statement).children.length := by omega
    obtain ⟨more, written, terminates⟩ :=
      terminates_embedded terminated last (inHeader_last fine (by omega) _) sound.2 false
    exact ⟨more ++ .leave (.statement statement) :: rest, by rw [written]; rfl, terminates.followed _⟩

theorem terminated {parent : Node} {left later : List Event}
    (visited : Visited policy [] true before parent (left ++ .enter node :: later) address above rest)
    (nested : WellNested left) (terminated : node.IsTerminated) :
    Terminates node later ∨ ∃ statement keyword count body inside, parent = .statement statement ∧
      statement.Headed keyword count body ∧ OpensHeader keyword inside left := by
  obtain ⟨front, back, shape, ⟨present, here⟩, same, tail⟩ := visited.child rfl nested
  have sound := visited.sound
  rw [shape, partSteps_append, firstFault?_append, Option.or_eq_none_iff, Nat.zero_add] at sound
  cases inside : inHeader (⟨node, slots front :: address⟩ :: ⟨parent, address⟩ :: above) with
  | false =>
      left
      obtain ⟨childSound, _⟩ := firstFault?_partSteps_cons sound.2
      simp only [pieceSteps, if_pos present] at childSound
      obtain ⟨after, written, terminates⟩ := terminates_steps terminated inside childSound _
      rw [settled_append, childSteps, written] at tail
      rw [(List.cons.inj tail).2]
      exact (terminates.followed _).followed _
  | true =>
      right
      obtain ⟨statement, keyword, count, body, rfl, headed⟩ := headed_of_inHeader inside
      have fine := flawed_of_sound visited.sound
      obtain ⟨wanted, parts, planned⟩ := headed_plan headed fine
      -- A child that is not in the parentheses would take the last slot.
      rcases append_cut (planned.shape.symm.trans shape) with ⟨more, inParts, _⟩ | ⟨start, _, rfl⟩
      · obtain ⟨earlier, rfl, rfl⟩ := headerUpTo_cut inParts
        have flat : earlier.all Piece.isFlat = true := by
          have whole := planned.flat
          rw [List.all_append] at whole
          exact (Bool.and_eq_true_iff.mp whole).1
        exact ⟨statement, keyword, count, body, _, rfl, headed, same ▸ opensHeader_settled flat sound.1 _⟩
      · have length := visited.children_length planned
        have late : slots parts ≤ slots (headerUpTo keyword wanted parts ++ start) := by
          rw [slots_append, slots_headerUpTo]
          exact Nat.le_add_right ..
        cases inside.symm.trans (inHeader_last fine (by omega) node)

end Visited

end Layout

/-- In a file without placeholders the header of a `for` statement has two semicolons and that of a `using`
statement none. All other expression statements and variable declarations end with a semicolon and a line
break, also those that are the body of such a statement. -/
theorem statements_end_outside_headers {policy : Policy} {tree : SyntaxTree} {text : String}
    (plain : (Node.syntaxTree tree).Every fun part => part.kind ≠ .pattern)
    (printed : print policy tree = .ok text) :
    ∃ found, events policy (.syntaxTree tree) = .ok found ∧
      (∀ before statement keyword count body after, Statement.Headed statement keyword count body →
        found = before ++ .enter (.statement statement) :: after →
        ∃ header inside later, after = header ++ .token .closeParen ")" :: later ∧
          OpensHeader keyword inside header ∧
          outerSemicolons inside = count ∧ ((Node.ofStatement body).IsTerminated → ∃ more,
            later = .newline :: .indent :: .enter (Node.ofStatement body) :: more ∧
              Terminates (Node.ofStatement body) more)) ∧
      ∀ before node after, found = before ++ .enter node :: after → node.IsTerminated → ¬EndsInHeader before →
        Terminates node after := by
  obtain ⟨found, run, _⟩ := print_events printed
  refine ⟨found, run, fun before statement keyword count body after headed split => ?_,
    fun before node after split terminated outside => ?_⟩
  · obtain ⟨_, _, _, every, _, visited⟩ := events_visited plain run split
    exact visited.headed every headed
  · have below : node ≠ .syntaxTree tree := by
      rintro rfl
      cases terminated
    obtain ⟨outer, parent, _, _, address, above, front, _, _, _, _, _, planned⟩ :=
      events_inParent plain run split below
    have nested : WellNested (settled (lineStartAfterEvents true outer)
        (Layout.partSteps policy parent address above 0 front)) := by
      have whole := (Layout.Matched.plan (p := policy) (q := policy) (⟨parent, address⟩ :: above) parent).calm
      rw [planned.shape, Layout.calm_append] at whole
      exact Layout.partSteps_wellNested (Bool.and_eq_true_iff.mp whole).1 planned.frontSound _
    have inParent := split
    rw [planned.start, List.append_assoc, List.cons_append] at inParent
    obtain ⟨_, _, _, _, _, visited⟩ := events_visited plain run inParent
    rcases visited.terminated nested terminated with
      terminates | ⟨statement, keyword, count, body, inside, rfl, headed, opens⟩
    · exact terminates
    · exact absurd ⟨outer, statement, keyword, count, body, inside, _, headed, planned.start, opens⟩ outside

def countUp : Statement := .expression (.unary .postIncrement (bareName "i"))

def countingLoop : Statement := .forLoop [] none [countUp] countUp

def loopInDestructor : DestructorDeclaration := ⟨[], [], ⟨"C", false, none⟩, some ⟨[countingLoop]⟩⟩

def counting : TypeDeclaration :=
  ⟨[], [], .classType, ⟨"C", false, none⟩, [], [], [], [.destructor loopInDestructor], false, false⟩

/-- The loop has the two semicolons of its header and one for its body, but none for its iterator. -/
theorem counting_loop_ends_once :
    (Node.syntaxTree ⟨[.type counting]⟩).Every (fun part => part.kind ≠ .pattern) ∧
      print Policy.kr ⟨[.type counting]⟩ =
        .ok "class C \x7b\n\t~C() \x7b\n\t\tfor (;; i++)\n\t\t\ti++;\n\t\x7d\n\x7d\n" ∧
      ∃ before header inside later,
        events Policy.kr (.syntaxTree ⟨[.type counting]⟩) =
          .ok (before ++ .enter (.statement countingLoop) ::
            (header ++ .token .closeParen ")" :: .newline :: .indent ::
            .enter (.statement countUp) :: later)) ∧
        OpensHeader "for" inside header ∧ outerSemicolons inside = 2 ∧
          Terminates (.statement countUp) later := by
  have plain : (Node.syntaxTree ⟨[.type counting]⟩).Every fun part => part.kind ≠ .pattern := by
    decide +kernel
  have printed : print Policy.kr ⟨[.type counting]⟩ =
      .ok "class C \x7b\n\t~C() \x7b\n\t\tfor (;; i++)\n\t\t\ti++;\n\t\x7d\n\x7d\n" := by decide +kernel
  obtain ⟨found, run, headers, _⟩ := statements_end_outside_headers plain printed
  have walk : found.filterMap Event.entered? = (Node.syntaxTree ⟨[.type counting]⟩).visiblePreorder := by
    rw [← entered_nodes 0, (events_nested run).entered_eq, List.flatMap_singleton, Node.visibleWalk_nodes]
  have below {node child part : Node} (visible : child ∈ node.visibleChildren)
      (inside : part ∈ child.visiblePreorder) :
      part ∈ node.visiblePreorder := by
    rw [Node.visiblePreorder_eq]
    exact List.mem_cons_of_mem _ (List.mem_flatMap.mpr ⟨child, visible, inside⟩)
  have visited : .statement countingLoop ∈ found.filterMap Event.entered? := by
    rw [walk]
    refine below List.mem_cons_self
      (below List.mem_cons_self (below List.mem_cons_self (below List.mem_cons_self ?_)))
    rw [Node.visiblePreorder_eq]
    exact List.mem_cons_self
  obtain ⟨event, member, entered⟩ := List.mem_filterMap.mp visited
  obtain ⟨before, after, rfl⟩ := List.append_of_mem member
  cases event with
  | enter node =>
      cases entered
      obtain ⟨header, inside, later, rfl, opens, counted, body⟩ :=
        headers before countingLoop "for" 2 countUp after (.forLoop [] none [countUp] countUp) rfl
      obtain ⟨more, rfl, terminates⟩ := body (.expression _)
      exact ⟨plain, printed, before, header, inside, more, run, opens, counted, terminates⟩
  | _ => cases entered

end CSharpLayout
