import CSharpLayout.Proofs.Bodies
import CSharpLayout.Proofs.Outline

/-! Labels. The first code behind the colon of a label is that of the next statement in its list; a label
with no such statement behind it has a semicolon of its own. -/

namespace CSharpLayout

def Event.isCode : Event → Bool
  | .identifier _ _ => true
  | .keyword _ => true
  | .token _ _ => true
  | .literal _ _ => true
  | .primitiveType _ => true
  | _ => false

def Part.isCode : Part → Bool
  | .token event => event.isCode
  | .child _ => false

/-- A node that is entered after the events `before` is one of the statements that the innermost open node
lists, and `later` are those behind it. Its place in the list is told by the nodes that were visited before
it. -/
def ListedBefore (before : List Event) (node : Node) (later : List Node) : Prop :=
  ∃ outer parent left earlier, before = outer ++ .enter parent :: left ∧
    Nested (fun _ _ _ => True) earlier left ∧
    parent.statements?.isSome = true ∧ parent.children = earlier ++ node :: later

theorem not_wellNested_entered {left right : List Event} {node : Node} (behind : WellNested right) :
    ¬ WellNested (left ++ .enter node :: right) := by
  rintro ⟨_, whole⟩
  obtain ⟨_, behind⟩ := behind
  have closed := whole.openAfter []
  rw [openAfter_append] at closed
  exact nomatch (behind.openAfter (node :: openAfter [] left)).symm.trans closed

theorem entered_unique {outer outer' left left' : List Event} {parent parent' : Node}
    (same : outer ++ .enter parent :: left = outer' ++ .enter parent' :: left') (inside : WellNested left)
    (inside' : WellNested left') : outer = outer' ∧ parent = parent' ∧ left = left' := by
  rcases append_cut same with ⟨rest, _, rfl⟩ | ⟨start, behind, rfl⟩
  · exact absurd inside' (not_wellNested_entered inside)
  · cases start with
    | nil =>
        obtain ⟨entered, rfl⟩ := List.cons.inj behind
        cases entered
        exact ⟨(List.append_nil _).symm, rfl, rfl⟩
    | cons first start =>
        obtain ⟨_, rfl⟩ := List.cons.inj behind
        exact absurd inside (not_wellNested_entered inside')

/-- What follows a statement in its list is determined by what was printed before it. -/
theorem ListedBefore.unique {before : List Event} {node : Node} {later later' : List Node}
    (first : ListedBefore before node later) (second : ListedBefore before node later') : later = later' := by
  obtain ⟨outer, parent, left, earlier, rfl, nested, _, children⟩ := first
  obtain ⟨outer', parent', left', earlier', same, nested', _, children'⟩ := second
  obtain ⟨rfl, rfl, rfl⟩ := entered_unique same nested.wellNested nested'.wellNested
  have visited := (nested.childrenAmong_outline []).symm.trans (nested'.childrenAmong_outline [])
  rw [List.append_cancel_right visited] at children
  exact (List.cons.inj (List.append_cancel_left (children.symm.trans children'))).2

namespace Layout

theorem isFollowedByStatement_eq {parent : Node} {statements : List Statement}
    (lists : parent.statements? = some statements) {first : Nat}
    (start : parent.children.length = first + statements.length) (node : Node) (index : Nat)
    (address : List Nat) (above : Frames) :
    isFollowedByStatement (⟨node, (first + index) :: address⟩ :: ⟨parent, address⟩ :: above) =
      ((Node.ofStatements statements).drop (index + 1)).any fun other => !other.isTrivia := by
  rw [Node.ofStatements, ← List.map_drop, List.any_map]
  unfold Node.statements? at lists
  split at lists
  next found =>
      cases lists
      obtain rfl : first = 0 := by
        simp only [Node.children, Node.ofStatements, List.length_map] at start
        omega
      rw [Nat.zero_add]
      refine congrArg (List.any (found.statements.drop (index + 1))) (funext fun statement => ?_)
      cases statement <;> rfl
  next found =>
      cases lists
      obtain rfl : first = found.labels.length := by
        simp only [Node.children, Node.ofStatements, List.length_map, List.length_append] at start
        omega
      have behind : found.labels.length + index + 1 - found.labels.length = index + 1 := by omega
      change List.any (found.statements.drop (found.labels.length + index + 1 - found.labels.length)) _ = _
      rw [behind]
      refine congrArg (List.any (found.statements.drop (index + 1))) (funext fun statement => ?_)
      cases statement <;> rfl
  next => cases lists

theorem isFollowedByStatement_of_unlisted {frames : Frames}
    (unlisted : ∀ parent, frames.parent? = some parent → parent.statements? = none) :
    isFollowedByStatement frames = false := by
  unfold isFollowedByStatement
  split
  next same _ => cases unlisted _ same
  next same _ => cases unlisted _ same
  next => rfl

section Lists

variable {policy : Policy} {frames : Frames}

theorem plan_statements {parent : Node} {statements : List Statement}
    (lists : parent.statements? = some statements) (fine : flawed (plan policy frames parent) = false) :
    ∃ head tail, plan policy frames parent = head ++ (visitAll (Node.ofStatements statements) ++ tail) ∧
      (∃ labels : List CaseLabel, held head = shown (labels.map Node.caseLabel)) ∧ held tail = [] := by
  unfold Node.statements? at lists
  split at lists
  next found =>
      cases lists
      refine ⟨openBrace (blockBraces policy frames),
        _, by rw [plan, block, braced, List.append_assoc, List.append_assoc], ⟨[], ?_⟩, ?_⟩
      · cases blockBraces policy frames <;> rfl
      · cases blockBraces policy frames <;> split <;> rfl
  next found =>
      cases lists
      rw [plan, switchSection] at fine ⊢
      split at fine
      next => cases fine
      next labelled =>
          rw [if_neg labelled]
          dsimp only
          split
          · exact ⟨_, [], by rw [List.append_nil], ⟨found.labels, held_lines _⟩, rfl⟩
          · split
            · exact ⟨lines (found.labels.map Node.caseLabel) ++ (indent ++ newline), unindent, by simp,
                ⟨found.labels, by simp⟩, rfl⟩
            · exact ⟨lines (found.labels.map Node.caseLabel) ++ newline,
                [], by simp, ⟨found.labels, by simp⟩, rfl⟩
  next => cases lists

theorem held_lists {parent : Node} (lists : parent.statements?.isSome = true)
    (fine : flawed (plan policy frames parent) = false) :
    held (plan policy frames parent) = shown parent.children := by
  rw [held_plan policy frames parent fine]
  cases parent with
  | block found => exact List.append_nil _
  | switchSection found => exact List.append_nil _
  | _ => cases lists

theorem statements_cut {statements : List Statement} {head tail front back : List Piece}
    {labels : List CaseLabel} {node : Node} (before : held head = shown (labels.map Node.caseLabel))
    (behind : held tail = []) (other : ∀ label, node ≠ .caseLabel label)
    (split : head ++ (visitAll (Node.ofStatements statements) ++ tail) = front ++ .child node :: back) :
    ∃ earlier later, Node.ofStatements statements = earlier ++ node :: later ∧
      front = head ++ visitAll earlier ∧
      back = visitAll later ++ tail := by
  rcases append_cut split with ⟨rest, rfl, _⟩ | ⟨start, inList, rfl⟩
  · have member : (true, node) ∈ shown (labels.map Node.caseLabel) :=
      before ▸ mem_held (List.mem_append_right _ List.mem_cons_self)
    simp only [shown, List.mem_map, Prod.mk.injEq, true_and] at member
    obtain ⟨_, ⟨label, _, rfl⟩, rfl⟩ := member
    exact absurd rfl (other label)
  · rcases append_cut inList with ⟨rest, inside, rfl⟩ | ⟨_, inTail, _⟩
    · rw [visitAll, List.map_eq_append_iff] at inside
      obtain ⟨earlier, here, whole, rfl, inside⟩ := inside
      obtain ⟨found, later, rfl, same, rfl⟩ := List.map_eq_cons_iff.mp inside
      cases same
      exact ⟨earlier, later, whole, rfl, rfl⟩
    · exact absurd (inTail ▸ List.mem_append_right _ List.mem_cons_self) (not_child_of_held behind node)

theorem sketch_semicolon (outside : inHeader frames = false) :
    sketch (semicolon frames) = [.token (.token .semicolon ";")] := by
  rw [semicolon, if_neg (by simp [outside])]
  rfl

/-- A statement that is listed writes code, unless it is a comment or a directive. -/
theorem code_in_statement {statement : Statement} (outside : inHeader frames = false)
    (code : (Node.ofStatement statement).isTrivia = false)
    (plain : (Node.ofStatement statement).kind ≠ .pattern)
    (fine : flawed (plan policy frames (Node.ofStatement statement)) = false) :
    (sketch (plan policy frames (Node.ofStatement statement))).any Part.isCode = true := by
  have ends (pieces : List Piece) : (sketch (pieces ++ semicolon frames)).any Part.isCode = true := by
    rw [sketch_append, sketch_semicolon outside]
    simp [Part.isCode, Event.isCode]
  cases statement with
  | block found => simp [Node.ofStatement, plan, block, Part.isCode, Event.isCode]
  | comment found => cases code
  | directive found => cases code
  | pattern placeholder => exact absurd rfl plain
  | localVariables declaration =>
      simp only [Node.ofStatement, plan, variableDeclaration] at fine ⊢
      split at fine
      next => cases fine
      next declared =>
          rw [if_neg declared]
          exact ends _
  | empty => exact ends []
  | expression found => exact ends (visit (Node.ofExpression found))
  | label name => simp [Node.ofStatement, plan, Layout.statement, Part.isCode, Event.isCode]
  | fixed variableType declarators body =>
      simp only [Node.ofStatement, plan, Layout.statement] at fine ⊢
      split at fine
      next => cases fine
      next declared =>
          rw [if_neg declared]
          rfl
  | forLoop initializers condition iterators body =>
      simp only [Node.ofStatement, plan, Layout.statement, forLoop] at fine ⊢
      split at fine
      next => cases fine
      next fits =>
          rw [if_neg fits]
          rfl
  -- All others begin with a keyword.
  | _ => rfl

end Lists

section Steps

variable {policy : Policy} {node : Node} {address : List Nat} {above : Frames}

theorem codeless_trivia {trivia : Node} (none : trivia.isTrivia = true) (address : List Nat) (above : Frames)
    (atLineStart : Bool) :
    (settled atLineStart (steps policy trivia address above)).any Event.isCode = false := by
  rw [steps_eq]
  cases trivia with
  | comment found =>
      rw [plan, comment]
      split <;> rfl
  | directive found => rfl
  | _ => cases none

theorem slots_visitAll (nodes : List Node) : slots (visitAll nodes) = nodes.length := by
  rw [slots_eq_length, held_visitAll, shown, List.length_map]

theorem settled_trivia {trivia rest : List Node} (none : trivia.all Node.isTrivia = true) {slot : Nat}
    (taken : node.children.drop slot = trivia ++ rest) (back : List Piece) (atLineStart : Bool) :
    ∃ gap start, gap.any Event.isCode = false ∧ node.children.drop (slot + trivia.length) = rest ∧
      settled atLineStart (partSteps policy node address above slot (visitAll trivia ++ back)) =
        gap ++ settled start (partSteps policy node address above (slot + trivia.length) back) := by
  induction trivia generalizing slot atLineStart with
  | nil => exact ⟨[], atLineStart, rfl, taken, rfl⟩
  | cons first others ih =>
      obtain ⟨here, behind⟩ := Bool.and_eq_true_iff.mp none
      obtain ⟨present, rfl, further⟩ := drop_eq_cons taken.symm
      obtain ⟨gap, start, quiet, reached, shape⟩ := ih behind further.symm
        (lineStartAfterSteps atLineStart
          (steps policy node.children[slot] (slot :: address) (⟨node, address⟩ :: above)))
      have length : slot + (node.children[slot] :: others).length = slot + 1 + others.length := by
        rw [List.length_cons]
        omega
      refine ⟨settled atLineStart
        (steps policy node.children[slot] (slot :: address) (⟨node, address⟩ :: above)) ++ gap,
        start, ?_, by rw [length, reached], ?_⟩
      · rw [List.any_append, codeless_trivia here, quiet, Bool.or_self]
      · change settled atLineStart (partSteps policy node address above slot
          (.child node.children[slot] :: (visitAll others ++ back))) = _
        rw [partSteps_cons, settled_append, pieceSteps, if_pos present, length, List.append_assoc, ← shape]
        rfl

theorem settled_child {next : Node} {others : List Node} {slot : Nat}
    (taken : node.children.drop slot = next :: others) {back : List Piece}
    (sound : firstFault? (partSteps policy node address above slot (.child next :: back)) = none)
    (atLineStart : Bool) :
    firstFault? (partSteps policy next (slot :: address) (⟨node, address⟩ :: above) 0
      (plan policy (⟨next, slot :: address⟩ :: ⟨node, address⟩ :: above) next)) = none ∧
    ∃ more, settled atLineStart (partSteps policy node address above slot (.child next :: back)) =
      .enter next ::
        (settled atLineStart (partSteps policy next (slot :: address) (⟨node, address⟩ :: above) 0
        (plan policy (⟨next, slot :: address⟩ :: ⟨node, address⟩ :: above) next)) ++
          .leave next :: more) := by
  obtain ⟨present, rfl, _⟩ := drop_eq_cons taken.symm
  have here := (firstFault?_partSteps_cons sound).1
  simp only [pieceSteps, if_pos present] at here
  rw [firstFault?_steps] at here
  refine ⟨here, ?_⟩
  rw [partSteps_cons, settled_append]
  simp only [pieceSteps, if_pos present]
  rw [settled_steps, List.cons_append, List.append_assoc]
  exact ⟨_, rfl⟩

theorem settled_label {name : Identifier}
    (sound : firstFault? (partSteps policy (.statement (.label name)) address above 0
      (plan policy (⟨.statement (.label name), address⟩ :: above) (.statement (.label name)))) =
        none) (atLineStart : Bool) :
    ∃ text tokenClass, settled atLineStart (partSteps policy (.statement (.label name)) address above 0
      (plan policy (⟨.statement (.label name), address⟩ :: above) (.statement (.label name)))) =
        .identifier text tokenClass :: .token .colon ":" ::
          ((if isFollowedByStatement (⟨.statement (.label name), address⟩ :: above) then []
            else [.token .semicolon ";"]) ++
            [.newline]) := by
  rw [plan, statement, List.append_assoc, List.append_assoc] at sound ⊢
  rw [identifier_of_sound sound, List.singleton_append, settled_own]
  split <;> exact ⟨_, _, rfl⟩

theorem code_in_body
    (sound : firstFault?
      (partSteps policy node address above 0 (plan policy (⟨node, address⟩ :: above) node)) = none)
    (code : (sketch (plan policy (⟨node, address⟩ :: above) node)).any Part.isCode = true)
    (atLineStart : Bool) :
    (settled atLineStart
      (partSteps policy node address above 0 (plan policy (⟨node, address⟩ :: above) node))).any
      Event.isCode = true := by
  have parts := outline_partSteps (calm_plan policy (⟨node, address⟩ :: above) node) sound atLineStart []
  rw [List.append_nil, outline, List.append_nil] at parts
  rw [← parts, List.any_eq_true] at code
  obtain ⟨part, member, code⟩ := code
  cases part with
  | token event => exact List.any_eq_true.mpr ⟨event, mem_of_outline member, code⟩
  | child found => cases code

namespace PlannedVisit

variable {outer before through after rest : List Event} {parent : Node} {front back : List Piece}

theorem quietFront
    (visit : PlannedVisit policy outer parent node before through after address above front back rest) :
    calm front = true := by
  have whole := calm_plan policy (⟨parent, address⟩ :: above) parent
  rw [visit.shape, calm_append] at whole
  exact (Bool.and_eq_true_iff.mp whole).1

/-- What follows a child in the list of statements is what its parent prints behind it. -/
theorem listedBefore_iff
    (visit : PlannedVisit policy outer parent node before through after address above front back rest)
    (lists : parent.statements?.isSome = true) (later : List Node) :
    ListedBefore before node later ↔ later = (held back).map Prod.snd := by
  have quiet := visit.quietFront
  have inside := partSteps_wellNested quiet visit.frontSound (lineStartAfterEvents true outer)
  -- All children of such a parent are printed, so those that were visited are those before this one.
  have visited : chosen (held front) = (held front).map Prod.snd := by
    have split := (held_lists lists visit.fine).symm
    rw [visit.shape, held_append] at split
    obtain ⟨earlier, _, _, same, _⟩ := List.map_eq_append_iff.mp split
    rw [← same, chosen_map, if_pos rfl, List.map_map]
    exact (List.map_id earlier).symm
  obtain ⟨earlier, nested⟩ := inside
  have counted : earlier = (held front).map Prod.snd := by
    have all := nested.childrenAmong_outline []
    rw [outline_partSteps quiet visit.frontSound, childrenAmong_append, childrenAmong_sketch, visited] at all
    exact (List.append_cancel_right all).symm
  have here : ListedBefore before node ((held back).map Prod.snd) :=
    ⟨outer, parent, _, earlier, visit.start, nested, lists, by rw [counted, visit.taken]⟩
  exact ⟨fun listed => listed.unique here, fun same => same ▸ here⟩

theorem not_listedBefore
    (visit : PlannedVisit policy outer parent node before through after address above front back rest)
    (unlisted : parent.statements? = none) (later : List Node) : ¬ ListedBefore before node later := by
  rintro ⟨_, _, _, _, same, nested, lists, _⟩
  have inside := partSteps_wellNested visit.quietFront visit.frontSound (lineStartAfterEvents true outer)
  obtain ⟨_, rfl, _⟩ := entered_unique (visit.start.symm.trans same) inside nested.wellNested
  rw [unlisted] at lists
  cases lists

theorem cut (visit : PlannedVisit policy outer parent node before through after address above front back rest)
    {statements : List Statement} (lists : parent.statements? = some statements)
    (other : ∀ label, node ≠ .caseLabel label) :
    ∃ first earlier later tail, parent.children.length = first + statements.length ∧
      Node.ofStatements statements = earlier ++ node :: later ∧ slots front = first + earlier.length ∧
      back = visitAll later ++ tail ∧ (held back).map Prod.snd = later := by
  obtain ⟨head, tail, planned, ⟨labels, ahead⟩, behind⟩ := plan_statements lists visit.fine
  obtain ⟨earlier, later, whole, rfl, rfl⟩ :=
    statements_cut ahead behind other (planned.symm.trans visit.shape)
  have length : statements.length = earlier.length + (later.length + 1) := by
    have same := congrArg List.length whole
    rwa [Node.ofStatements, List.length_map, List.length_append, List.length_cons] at same
  refine ⟨slots head, earlier, later, tail, ?_, whole, ?_, rfl, by simp [behind, shown, Function.comp_def]⟩
  · have taken := congrArg List.length visit.taken
    simp only [held_append, held_visitAll, behind, shown, List.length_append, List.length_cons,
      List.length_map, List.length_nil] at taken
    rw [slots_eq_length]
    omega
  · rw [slots_append, slots_visitAll]

theorem isFollowedByStatement_iff
    (visit : PlannedVisit policy outer parent node before through after address above front back rest)
    (lists : parent.statements?.isSome = true) (other : ∀ label, node ≠ .caseLabel label) :
    isFollowedByStatement (⟨node, slots front :: address⟩ :: ⟨parent, address⟩ :: above) =
      ((held back).map Prod.snd).any fun later => !later.isTrivia := by
  obtain ⟨statements, lists⟩ := Option.isSome_iff_exists.mp lists
  obtain ⟨first, earlier, later, tail, start, whole, index, _, behind⟩ := visit.cut lists other
  have rest : (earlier ++ node :: later).drop (earlier.length + 1) = later := by simp [List.drop_append]
  rw [index, isFollowedByStatement_eq lists start, whole, rest, behind]

/-- Behind a statement and the comments and directives after it comes the code of the next one. -/
theorem next_statement
    (visit : PlannedVisit policy outer parent node before through after address above front back rest)
    (plain : parent.Every fun part => part.kind ≠ .pattern) (lists : parent.statements?.isSome = true)
    (other : ∀ label, node ≠ .caseLabel label) {trivia others : List Node} {next : Node}
    (listed : ListedBefore before node (trivia ++ next :: others)) (none : trivia.all Node.isTrivia = true)
    (code : next.isTrivia = false) :
    ∃ gap body more, after = gap ++ .enter next :: (body ++ .leave next :: more) ∧
      gap.any Event.isCode = false ∧
      WellNested body ∧ body.any Event.isCode = true := by
  have following := (visit.listedBefore_iff lists _).mp listed
  obtain ⟨statements, owned⟩ := Option.isSome_iff_exists.mp lists
  obtain ⟨_, earlier, later, tail, _, whole, _, rfl, behind⟩ := visit.cut owned other
  obtain rfl := following.trans behind
  have dropped : parent.children.drop (slots front + 1) = trivia ++ next :: others := by
    rw [← visit.taken, behind, slots_eq_length]
    simp [List.drop_append]
  have pieces : visitAll (trivia ++ next :: others) ++ tail =
      visitAll trivia ++ (.child next :: (visitAll others ++ tail)) := by
    simp [visitAll]
  have sound := visit.backSound
  rw [pieces, partSteps_append, firstFault?_append, Option.or_eq_none_iff, slots_visitAll] at sound
  obtain ⟨gap, start, quiet, reached, shape⟩ : ∃ gap start, gap.any Event.isCode = false ∧
      parent.children.drop (slots front + 1 + trivia.length) = next :: others ∧
      settled (lineStartAfterEvents true through) (partSteps policy parent address above (slots front + 1)
          (visitAll trivia ++ (.child next :: (visitAll others ++ tail)))) =
        gap ++ settled start (partSteps policy parent address above (slots front + 1 + trivia.length)
          (.child next :: (visitAll others ++ tail))) :=
    settled_trivia none dropped _ _
  obtain ⟨nextSound, more, visited⟩ := settled_child reached sound.2 start
  have member : next ∈ Node.ofStatements statements := by simp [whole]
  have child : next ∈ parent.children := List.mem_of_mem_drop (reached ▸ List.mem_cons_self)
  have header : parent.hasHeader = false := by
    cases parent <;> first | rfl | cases lists
  obtain ⟨statement, _, rfl⟩ := List.mem_map.mp member
  have written :=
    code_in_statement (inHeader_of_plain header (Node.ofStatement statement) _ address above) code
    (plain.child child).self (flawed_of_sound nextSound)
  refine ⟨gap, _, more ++ .leave parent :: rest, ?_, quiet, body_wellNested nextSound start,
    code_in_body nextSound written start⟩
  rw [visit.later, pieces, shape, visited]
  simp only [List.append_assoc, List.cons_append]

end PlannedVisit

end Steps

end Layout

theorem events_planned {policy : Policy} {root node : Node} {found before after : List Event}
    {holds : Node → Prop} (every : root.Every holds) (printed : events policy root = .ok found)
    (split : found = before ++ .enter node :: after) (below : node ≠ root) :
    ∃ outer parent through later address above front back rest, parent.Every holds ∧
      Layout.PlannedVisit policy outer parent node before through later address above front back rest ∧
      after = settled (lineStartAfterEvents true before)
        (Layout.partSteps policy node (Layout.slots front :: address)
        (⟨parent, address⟩ :: above) 0 (Layout.plan policy
          (⟨node, Layout.slots front :: address⟩ :: ⟨parent, address⟩ :: above) node)) ++
            .leave node :: later := by
  obtain ⟨outer, parent, _, later, _, _, _, _, _, _, _, ⟨body, rfl, inside⟩, visit⟩ :=
    events_inParent every printed split below
  have left := Layout.partSteps_wellNested visit.quietFront visit.frontSound (lineStartAfterEvents true outer)
  have here : ChildVisit found outer parent node before
      (before ++ .enter node :: (body ++ [.leave node])) later :=
    ⟨⟨_, visit.start, left⟩, ⟨body, rfl, inside⟩, by rw [split]; simp⟩
  obtain ⟨_, whole⟩ := here.whole_eq
  obtain ⟨address, above, rest, everyParent, _, visited⟩ := events_visited every printed whole
  obtain ⟨front, back, planned⟩ := here.planned whole visited
  refine ⟨outer, parent, _, later, address, above, front, back, rest, everyParent, planned, ?_⟩
  have finish := List.append_cancel_left planned.finish
  rw [Layout.childSteps, Layout.settled_steps] at finish
  rw [List.append_cancel_right (List.cons.inj finish).2]

theorem events_label {policy : Policy} {name : Identifier} {found : List Event}
    (printed : events policy (.statement (.label name)) = .ok found) :
    ∃ text tokenClass,
      found = [.enter (.statement (.label name)), .identifier text tokenClass, .token .colon ":",
      .token .semicolon ";", .newline, .leave (.statement (.label name))] := by
  obtain ⟨sound, rfl⟩ := events_eq_ok printed
  rw [Layout.trace, Layout.firstFault?_steps] at sound
  obtain ⟨text, tokenClass, shape⟩ := Layout.settled_label sound true
  have alone : Layout.isFollowedByStatement [⟨.statement (.label name), []⟩] = false :=
    Layout.isFollowedByStatement_of_unlisted fun _ same => by simp [Frames.parent?] at same
  rw [alone, if_neg Bool.false_ne_true] at shape
  refine ⟨text, tokenClass, ?_⟩
  rw [Layout.trace, Layout.settled_steps, shape]
  rfl

/-- A label always labels a statement. If nothing but comments and directives follows it in the list of
statements that it stands in, or if it stands in none, the first code behind its colon is a semicolon of its
own; otherwise it is the first code of the next statement in the list. -/
theorem labels_label_statements {policy : Policy} {root : Node} {found : List Event}
    (plain : root.Every fun part => part.kind ≠ .pattern) (printed : events policy root = .ok found)
    {before after : List Event} {name : Identifier}
    (split : found = before ++ .enter (.statement (.label name)) :: after) :
    ∃ text tokenClass rest, after = .identifier text tokenClass :: .token .colon ":" :: rest ∧
      ((∀ later, ListedBefore before (.statement (.label name)) later → later.all Node.isTrivia = true) →
        ∃ more, rest = .token .semicolon ";" :: .newline :: .leave (.statement (.label name)) :: more) ∧
      ∀ trivia next others, ListedBefore before (.statement (.label name)) (trivia ++ next :: others) →
        trivia.all Node.isTrivia = true → next.isTrivia = false →
        ∃ gap body more, rest = gap ++ .enter next :: (body ++ .leave next :: more) ∧
          gap.any Event.isCode = false ∧
          WellNested body ∧ body.any Event.isCode = true := by
  by_cases below : .statement (.label name) = root
  · subst below
    obtain ⟨text, tokenClass, whole⟩ := events_label printed
    rw [split] at whole
    cases before with
    | nil =>
        refine ⟨text, tokenClass, _, (List.cons.inj whole).2, fun _ => ⟨_, rfl⟩, ?_⟩
        rintro _ _ _ ⟨outer, _, _, _, same, _⟩
        cases outer <;> cases same
    | cons first others =>
        have inside : .enter (.statement (.label name)) ∈ others ++ .enter (.statement (.label name)) ::
            after :=
          List.mem_append_right _ List.mem_cons_self
        rw [List.cons_append] at whole
        rw [(List.cons.inj whole).2] at inside
        simp at inside
  · obtain ⟨outer, parent, through, later, address, above, front, back, rest, plain, visit, rfl⟩ :=
      events_planned plain printed split below
    have sound := visit.childSound
    rw [Layout.childSteps, Layout.firstFault?_steps] at sound
    obtain ⟨text, tokenClass, shape⟩ := Layout.settled_label sound (lineStartAfterEvents true before)
    have other (label : CaseLabel) : Node.statement (.label name) ≠ .caseLabel label :=
      fun same => Node.noConfusion same
    rw [shape]
    refine ⟨text, tokenClass, _, rfl, fun trivial => ?_, fun trivia next others listed none code => ?_⟩
    · have unfollowed : Layout.isFollowedByStatement
          (⟨.statement (.label name), Layout.slots front :: address⟩ ::
          ⟨parent, address⟩ :: above) = false := by
        cases lists : parent.statements? with
        | none =>
            refine Layout.isFollowedByStatement_of_unlisted fun _ same => ?_
            cases same
            exact lists
        | some statements =>
            have owned : parent.statements?.isSome = true := by rw [lists]; rfl
            rw [visit.isFollowedByStatement_iff owned other]
            have every := trivial _ ((visit.listedBefore_iff owned _).mpr rfl)
            rw [List.any_eq_not_all_not]
            simpa using every
      rw [unfollowed]
      exact ⟨later, rfl⟩
    · have owned : parent.statements?.isSome = true := by
        cases lists : parent.statements? with
        | none => exact absurd listed (visit.not_listedBefore lists _)
        | some statements => rfl
      have followed := visit.isFollowedByStatement_iff owned other
      rw [← (visit.listedBefore_iff owned _).mp listed] at followed
      obtain ⟨gap, body, more, shape, quiet, nested, written⟩ :=
        visit.next_statement plain owned other listed none code
      refine ⟨.newline :: .leave (.statement (.label name)) :: gap, body, more, ?_, quiet, nested, written⟩
      rw [followed, shape]
      simp [code]

section Twice

def doneLabel : Node := .statement (.label ⟨"done", false, none⟩)

def remark : Node := .comment ⟨.singleLine, "again"⟩

def labelledTwice : Block :=
  ⟨[.label ⟨"done", false, none⟩, .comment ⟨.singleLine, "again"⟩, .label ⟨"done", false, none⟩]⟩

def beforeLabels : List Event := [.token .openBrace "\x7b", .indent, .newline]

def betweenLabels : List Event :=
  [.newline, .leave doneLabel, .enter remark, .comment .singleLine "again", .leave remark]

def afterLabels : List Event :=
  [.token .semicolon ";", .newline, .leave doneLabel, .unindent, .token .closeBrace "\x7d", .newline,
    .leave (.block labelledTwice)]

def afterFirstLabel : List Event :=
  betweenLabels ++ .enter doneLabel :: .identifier "done" .label :: .token .colon ":" :: afterLabels

theorem equal_labels_label_statements :
    (Node.block labelledTwice).Every (fun part => part.kind ≠ .pattern) ∧
      events Policy.kr (.block labelledTwice) = .ok (.enter (.block labelledTwice) :: beforeLabels ++
        .enter doneLabel :: .identifier "done" .label :: .token .colon ":" :: afterFirstLabel) ∧
      (ListedBefore (.enter (.block labelledTwice) :: beforeLabels) doneLabel ([remark] ++ doneLabel :: []) ∧
        ∃ gap body more, afterFirstLabel = gap ++ .enter doneLabel :: (body ++ .leave doneLabel :: more) ∧
          gap.any Event.isCode = false ∧ WellNested body ∧ body.any Event.isCode = true) ∧
      (∀ later, ListedBefore (.enter (.block labelledTwice) :: beforeLabels ++
          .enter doneLabel :: .identifier "done" .label :: .token .colon ":" ::
            betweenLabels) doneLabel later →
        later.all Node.isTrivia = true) ∧
      ∃ more, afterLabels = .token .semicolon ";" :: .newline :: .leave doneLabel :: more := by
  have plain : (Node.block labelledTwice).Every fun part => part.kind ≠ .pattern := by decide +kernel
  have printed : events Policy.kr (.block labelledTwice) =
      .ok (.enter (.block labelledTwice) :: beforeLabels ++
      .enter doneLabel :: .identifier "done" .label :: .token .colon ":" :: afterFirstLabel) := by
    with_unfolding_all rfl
  have start : Nested (fun _ _ _ => True) [] beforeLabels :=
    .append (.plain rfl) (.append (.plain rfl) (.plain rfl))
  have first : Nested (fun _ _ _ => True) [doneLabel]
      (.enter doneLabel ::
        ([.identifier "done" .label, .token .colon ":", .newline] ++ [.leave doneLabel])) :=
    .visit trivial (.append (.plain rfl) (.append (.plain rfl) (.plain rfl)))
  have second : Nested (fun _ _ _ => True) [remark]
      (.enter remark :: ([.comment .singleLine "again"] ++ [.leave remark])) :=
    .visit trivial (.plain rfl)
  have followed : ListedBefore (.enter (.block labelledTwice) :: beforeLabels) doneLabel
      ([remark] ++ doneLabel :: []) :=
    ⟨[], .block labelledTwice, beforeLabels, [], rfl, start, rfl, rfl⟩
  have last : ListedBefore (.enter (.block labelledTwice) :: beforeLabels ++ .enter doneLabel ::
      .identifier "done" .label :: .token .colon ":" :: betweenLabels) doneLabel [] :=
    ⟨[], .block labelledTwice, _, [doneLabel, remark], rfl, .append start (.append first second), rfl, rfl⟩
  have none later (listed : ListedBefore _ doneLabel later) : later.all Node.isTrivia = true :=
    listed.unique last ▸ rfl
  refine ⟨plain, printed, ⟨followed, ?_⟩, none, ?_⟩
  · obtain ⟨_, _, _, shape, _, next⟩ := labels_label_statements plain printed rfl
    cases shape
    exact next [remark] doneLabel [] followed rfl rfl
  · have again : .enter (.block labelledTwice) :: beforeLabels ++ .enter doneLabel ::
        .identifier "done" .label ::
          .token .colon ":" :: afterFirstLabel =
        (.enter (.block labelledTwice) :: beforeLabels ++ .enter doneLabel :: .identifier "done" .label ::
            .token .colon ":" :: betweenLabels) ++
          .enter doneLabel :: .identifier "done" .label :: .token .colon ":" :: afterLabels := rfl
    obtain ⟨_, _, _, shape, own, _⟩ := labels_label_statements plain printed again
    cases shape
    exact own none

end Twice

end CSharpLayout
