import CSharpLayout.Proofs.Nesting

/-! Delimiters come in pairs. Inside every node that is printed, what is opened is closed again by its own
kind of delimiter, and what was opened last is closed first. -/

namespace CSharpLayout

/-- Delimiters that are all closed: none, one such list after another, or one of them between an opening
delimiter and the delimiter that closes it. -/
inductive Paired : List TokenRole → Prop
  | nil : Paired []
  | append {left right : List TokenRole} : Paired left → Paired right → Paired (left ++ right)
  | enclosed {opening closing : TokenRole} {body : List TokenRole} : opening.closing? = some closing →
      Paired body → Paired (opening :: (body ++ [closing]))

def Event.delimiter? : Event → Option TokenRole
  | .token role _ => if role.isDelimiter then some role else none
  | _ => none

def delimiters (events : List Event) : List TokenRole := events.filterMap Event.delimiter?

def Step.delimiter? : Step → Option TokenRole
  | .event found => found.delimiter?
  | _ => none

def stepDelimiters (steps : List Step) : List TokenRole := steps.filterMap Step.delimiter?

theorem stepDelimiters_append (left right : List Step) :
    stepDelimiters (left ++ right) = stepDelimiters left ++ stepDelimiters right := List.filterMap_append

theorem stepDelimiters_visit (node : Node) (frame : Frame) (body : List Step) :
    stepDelimiters (.opens frame :: .event (.enter node) :: (body ++ [.closes frame, .event (.leave node)])) =
      stepDelimiters body :=
  (stepDelimiters_append body _).trans (List.append_nil _)

theorem delimiters_settled (atLineStart : Bool) (steps : List Step) :
    delimiters (settled atLineStart steps) = stepDelimiters steps := by
  induction steps generalizing atLineStart with
  | nil => rfl
  | cons step rest ih =>
      cases step with
      | opens frame => exact ih atLineStart
      | closes frame => exact ih atLineStart
      | event found =>
          have later := ih (found.lineStartAfter atLineStart)
          simp only [delimiters, stepDelimiters] at later ⊢
          rw [settled, List.filterMap_cons, List.filterMap_cons, later]
          rfl
      | gap => cases atLineStart <;> exact ih _
      | freshLine => cases atLineStart <;> exact ih _
      | fault found => exact ih atLineStart

theorem stepDelimiters_of_layout {steps : List Step} (layout : steps.all Step.isLayout = true) :
    stepDelimiters steps = [] := by
  refine List.filterMap_eq_nil_iff.mpr fun step member => ?_
  have found := List.all_eq_true.mp layout step member
  cases step with
  | event event =>
      cases event with
      | token role text => exact absurd found (by simp [Event.isLayout])
      | _ => rfl
  | _ => rfl

theorem TokenRole.isDelimiter_of_closing? {opening closing : TokenRole}
    (closes : opening.closing? = some closing) :
    opening.isDelimiter = true ∧ closing.isDelimiter = true := by
  cases opening <;> cases closes <;> exact ⟨rfl, rfl⟩

namespace Layout

section Steps

variable (policy : Policy) (node : Node) (address : List Nat) (above : Frames)

def Closed (pieces : List Piece) : Prop :=
  ∀ slot, Paired (stepDelimiters (partSteps policy node address above slot pieces))

variable {policy node address above}

namespace Closed

theorem append {left right : List Piece} (first : Closed policy node address above left)
    (second : Closed policy node address above right) : Closed policy node address above (left ++ right) := by
  intro slot
  rw [partSteps_append, stepDelimiters_append]
  exact .append (first slot) (second _)

theorem layout {pieces : List Piece} (layout : pieces.all Piece.isLayout = true) :
    Closed policy node address above pieces := by
  intro slot
  rw [stepDelimiters_of_layout (partSteps_layout policy node address above slot layout).1]
  exact .nil

theorem around {before body after : List Piece} (first : before.all Piece.isLayout = true)
    (second : after.all Piece.isLayout = true) (inside : Closed policy node address above body) :
    Closed policy node address above (before ++ body ++ after) :=
  append (append (layout first) inside) (layout second)

theorem delimited {opening closing : TokenRole} (before after : String) {body : List Piece}
    (closes : opening.closing? = some closing) (inside : Closed policy node address above body) :
    Closed policy node address above (symbol opening before ++ body ++ symbol closing after) := by
  intro slot
  obtain ⟨opens, ends⟩ := TokenRole.isDelimiter_of_closing? closes
  have first (slot : Nat) :
      stepDelimiters (partSteps policy node address above slot (symbol opening before)) = [opening] := by
    simp [partSteps, numbered, symbol, pieceSteps, stepDelimiters, Step.delimiter?, Event.delimiter?, opens]
  have last (slot : Nat) :
      stepDelimiters (partSteps policy node address above slot (symbol closing after)) = [closing] := by
    simp [partSteps, numbered, symbol, pieceSteps, stepDelimiters, Step.delimiter?, Event.delimiter?, ends]
  rw [partSteps_append, partSteps_append, stepDelimiters_append, stepDelimiters_append, first, last,
    List.singleton_append, List.cons_append]
  exact .enclosed closes (inside _)

/-- In every style a body stands between an opening and a closing brace, with layout around them. -/
theorem braced (style : BraceStyle) {body : List Piece} (inside : Closed policy node address above body) :
    Closed policy node address above (Layout.braced style body) := by
  obtain ⟨before, after, opened, layout, _, broken, _⟩ := openBrace_shape style
  obtain ⟨below, rest, closed, calm, still⟩ := closeBrace_shape style
  have braces : TokenRole.openBrace.closing? = some .closeBrace := rfl
  have middle := delimited "\x7b" "\x7d" braces (around broken (all_layout_of_shift calm) inside)
  have whole := around layout (all_layout_of_shift still) middle
  rw [Layout.braced, opened, closed]
  simpa only [List.append_assoc] using whole

end Closed

theorem closed_fixed {piece : Piece} (fixed : piece.isFixed = true)
    (children : ∀ slot found, piece = .child found → slot < node.children.length →
      Paired (stepDelimiters (steps policy found (slot :: address) (⟨node, address⟩ :: above)))) :
        Closed policy node address above [piece] := by
  intro slot
  rw [partSteps_cons, partSteps_nil, List.append_nil]
  cases piece with
  | event event =>
      cases event with
      | token role text =>
          have plain : role.isDelimiter = false := by simpa [Piece.isFixed] using fixed
          simpa [pieceSteps, stepDelimiters, Step.delimiter?, Event.delimiter?, plain] using Paired.nil
      | _ => exact .nil
  | child found =>
      rw [pieceSteps]
      split
      next present => exact children slot found rfl present
      next => exact .nil
  | _ => exact .nil

/-- A plan closes the delimiters it opens, if its children do. -/
theorem Matched.closed {p q : Policy} {left right : List Piece} (matched : Matched p q left right)
    (children : ∀ slot found, .child found ∈ left → slot < node.children.length →
      Paired (stepDelimiters (steps policy found (slot :: address) (⟨node, address⟩ :: above)))) :
    Closed policy node address above left := by
  induction matched with
  | nil => exact fun _ => .nil
  | append _ _ first second =>
      exact (first fun slot found asked => children slot found (List.mem_append_left _ asked)).append
        (second fun slot found asked => children slot found (List.mem_append_right _ asked))
  | fixed found =>
      exact closed_fixed found fun slot child same => children slot child (List.mem_singleton.mpr same.symm)
  | blank every _ _ =>
      refine Closed.layout (List.all_eq_true.mpr fun piece member => ?_)
      exact Piece.isLayout_of_isBlank (List.all_eq_true.mp every piece member)
  | indented deep _ _ ih =>
      obtain ⟨before, after, first, second, shape⟩ := indentedIf_shape deep
      rw [shape] at children ⊢
      have inner := ih fun slot found asked =>
        children slot found (List.mem_append_left _ (List.mem_append_right _ asked))
      exact inner.around (all_layout_of_shift first) (all_layout_of_shift second)
  | delimited opening before after closes _ ih =>
      have inner := ih fun slot found asked =>
        children slot found (List.mem_append_left _ (List.mem_append_right _ asked))
      exact inner.delimited before after closes
  | braced flat _ _ _ ih =>
      obtain ⟨before, after, first, second, shape⟩ := outdentedIf_shape flat
      rw [shape] at children ⊢
      have inner := ih fun slot found asked =>
        have within := List.mem_append_left after (List.mem_append_right before asked)
        children slot found (List.mem_append_left _ (List.mem_append_right _ within))
      exact Closed.braced _ (inner.around (all_layout_of_shift first) (all_layout_of_shift second))

theorem steps_paired (policy : Policy) (node : Node) (address : List Nat) (above : Frames) :
    Paired (stepDelimiters (steps policy node address above)) := by
  induction node, address, above using steps_induct with
  | visit node address above ih =>
      rw [steps_eq, stepDelimiters_visit]
      exact (Matched.plan (p := policy) (q := policy) _ node).closed
        (fun slot found asked present => ih slot found (mem_children_of_asked asked present)) 0

theorem body_paired (policy : Policy) (node : Node) (address : List Nat) (above : Frames)
    (atLineStart : Bool) :
    Paired (delimiters (settled atLineStart
      (partSteps policy node address above 0 (plan policy (⟨node, address⟩ :: above) node)))) := by
  rw [delimiters_settled]
  exact (Matched.plan (p := policy) (q := policy) _ node).closed (fun _ _ _ _ => steps_paired policy _ _ _) 0

end Steps

end Layout

/-- Between entering and leaving a node, parentheses, brackets, braces and chevrons are all closed, each by
its own kind and in the reverse order in which they are opened. -/
theorem delimiters_are_paired {policy : Policy} {node : Node} {found : List Event}
    (printed : events policy node = .ok found) :
    WellNested found ∧ ∀ before inside after opened closed,
      found = before ++ .enter opened :: (inside ++ .leave closed :: after) → WellNested inside →
        Paired (delimiters inside) := by
  obtain ⟨sound, rfl⟩ := events_eq_ok printed
  have nested : Nested (fun _ _ body => Paired (delimiters body)) [node]
      (settled true (Layout.trace policy node)) :=
    Layout.steps_nested (fun node address above atLineStart _ =>
      Layout.body_paired policy node address above atLineStart) sound true
  refine ⟨nested.wellNested, ?_⟩
  intro before inside after opened closed split complete
  obtain ⟨_, body, rest, shape, paired, visited⟩ := nested.leaves split
  have same : inside = body := complete.unique visited.wellNested shape
  rw [same]
  exact paired

def bareName (text : String) : Expression := .identifier ⟨text, false, none⟩ []

def parenthesizedIndex : Node := .expression (.indexer (bareName "x") [.parenthesized (bareName "y")])

def insideIndex : List Event :=
  [.token .openParen "(", .enter (.expression (bareName "y")), .identifier "y" .text,
    .leave (.expression (bareName "y")), .token .closeParen ")"]

def insideElement : List Event :=
  [.enter (.expression (bareName "x")), .identifier "x" .text, .leave (.expression (bareName "x")),
    .token .openBracket "["] ++
    .enter (.expression (.parenthesized (bareName "y"))) ::
      (insideIndex ++ [.leave (.expression (.parenthesized (bareName "y")))]) ++
    [.token .closeBracket "]"]

theorem parenthesized_index_is_paired :
    events Policy.kr parenthesizedIndex =
        .ok ([] ++ .enter parenthesizedIndex :: (insideElement ++ .leave parenthesizedIndex :: [])) ∧
      WellNested insideElement ∧ Paired (delimiters insideElement) ∧
      delimiters insideElement = [.openBracket, .openParen, .closeParen, .closeBracket] := by
  have printed : events Policy.kr parenthesizedIndex =
      .ok ([] ++ .enter parenthesizedIndex :: (insideElement ++ .leave parenthesizedIndex :: [])) := by with_unfolding_all rfl
  obtain ⟨_, index⟩ : WellNested insideIndex :=
    ⟨_, .append (.plain rfl) (.append (.visit trivial (.plain rfl)) (.plain rfl))⟩
  have element : WellNested insideElement :=
    ⟨_, .append (.append (.append (.visit trivial (.plain rfl)) (.plain rfl)) (.visit trivial index))
      (.plain rfl)⟩
  exact ⟨printed, element, (delimiters_are_paired printed).2 [] insideElement [] _ _ rfl element, rfl⟩

end CSharpLayout
