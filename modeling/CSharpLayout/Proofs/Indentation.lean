import CSharpLayout.Proofs.Nesting
import CSharpLayout.Proofs.Strokes

/-! Indentation is given back. Inside every node that is printed, indentation that is added is taken away
again, and nothing is taken away that was not added before. -/

namespace CSharpLayout

namespace Event

def isIndent : Event → Bool
  | .indent => true
  | _ => false

def isUnindent : Event → Bool
  | .unindent => true
  | _ => false

def shifted (depth : Nat) : Event → Option Nat
  | .indent => some (depth + 1)
  | .unindent => if depth = 0 then none else some (depth - 1)
  | _ => some depth

end Event

def level (depth : Nat) (events : List Event) : Option Nat := events.foldlM Event.shifted depth

/-- From any indentation, the events lead back to it and never take away more than they added. -/
def Balanced (events : List Event) : Prop := ∀ depth, level depth events = some depth

theorem level_cons (depth : Nat) (event : Event) (rest : List Event) :
    level depth (event :: rest) = (event.shifted depth).bind (level · rest) := List.foldlM_cons

theorem level_append (depth : Nat) (left right : List Event) :
    level depth (left ++ right) = (level depth left).bind (level · right) := List.foldlM_append

theorem level_withSpaces (depth : Nat) (last : LastWritten) (events : List Event) :
    level depth (withSpaces last events) = level depth events := by
  induction events generalizing depth last with
  | nil => rfl
  | cons event rest ih =>
      rw [withSpaces, level_cons]
      split
      all_goals simp only [level_cons, Event.shifted, Option.bind_some, ih]

theorem Balanced.visit {body : List Event} (inside : Balanced body) (node : Node) :
    Balanced (.enter node :: (body ++ [.leave node])) := by
  intro depth
  change level depth (body ++ [.leave node]) = some depth
  rw [level_append, inside, Option.bind_some]
  rfl

theorem level_count {events : List Event} {depth reached : Nat} (found : level depth events = some reached) :
    depth + events.countP Event.isIndent = reached + events.countP Event.isUnindent := by
  induction events generalizing depth with
  | nil =>
      cases found
      rfl
  | cons event rest ih =>
      rw [level_cons] at found
      obtain ⟨between, step, rest'⟩ := Option.bind_eq_some_iff.mp found
      have counted := ih rest'
      cases event with
      | indent =>
          cases step
          simp only [List.countP_cons, Event.isIndent, Event.isUnindent] at counted ⊢
          simp only [if_true, Bool.false_eq_true, if_false]
          omega
      | unindent =>
          simp only [Event.shifted] at step
          split at step
          · simp at step
          · cases step
            simp only [List.countP_cons, Event.isIndent, Event.isUnindent] at counted ⊢
            simp only [if_true, Bool.false_eq_true, if_false]
            omega
      | _ =>
          cases step
          simpa [Event.isIndent, Event.isUnindent] using counted

theorem Balanced.count_eq {events : List Event} (balanced : Balanced events) :
    events.countP Event.isIndent = events.countP Event.isUnindent := by
  have counted := level_count (balanced 0)
  omega

theorem Balanced.count_le {events start : List Event} (balanced : Balanced events)
    (begins : start <+: events) :
    start.countP Event.isUnindent ≤ start.countP Event.isIndent := by
  obtain ⟨rest, rfl⟩ := begins
  have whole := balanced 0
  rw [level_append] at whole
  obtain ⟨reached, first, _⟩ := Option.bind_eq_some_iff.mp whole
  have counted := level_count first
  omega

def Piece.shifted (depth : Nat) : Piece → Option Nat
  | .event found => found.shifted depth
  | _ => some depth

namespace Layout

def pieceLevel (depth : Nat) (pieces : List Piece) : Option Nat := pieces.foldlM Piece.shifted depth

theorem pieceLevel_cons (depth : Nat) (piece : Piece) (rest : List Piece) :
    pieceLevel depth (piece :: rest) = (piece.shifted depth).bind (pieceLevel · rest) := List.foldlM_cons

theorem pieceLevel_append (depth : Nat) (left right : List Piece) :
    pieceLevel depth (left ++ right) = (pieceLevel depth left).bind (pieceLevel · right) := List.foldlM_append

theorem pieceLevel_of_still {pieces : List Piece}
    (still : ∀ piece ∈ pieces, ∀ depth, piece.shifted depth = some depth) (depth : Nat) :
    pieceLevel depth pieces = some depth := by
  induction pieces with
  | nil => rfl
  | cons piece rest ih =>
      rw [pieceLevel_cons, still piece (List.mem_cons_self ..), Option.bind_some]
      exact ih fun other member => still other (List.mem_cons_of_mem _ member)

theorem shifted_of_blank {piece : Piece} (blank : piece.isBlank = true) (depth : Nat) :
    piece.shifted depth = some depth := by
  cases piece with
  | event found =>
      cases found with
      | indent => exact absurd blank (by simp [Piece.isBlank])
      | unindent => exact absurd blank (by simp [Piece.isBlank])
      | _ => rfl
  | _ => rfl

theorem shifted_of_fixed {piece : Piece} (fixed : piece.isFixed = true) (depth : Nat) :
    piece.shifted depth = some depth := by
  cases piece with
  | event found =>
      cases found with
      | indent => exact absurd fixed (by simp [Piece.isFixed, Event.isToken])
      | unindent => exact absurd fixed (by simp [Piece.isFixed, Event.isToken])
      | _ => rfl
  | _ => rfl

def braceDepth : BraceStyle → Nat
  | .nextLineIndentedTwice => 2
  | _ => 1

theorem pieceLevel_openBrace (style : BraceStyle) (depth : Nat) :
    pieceLevel depth (openBrace style) = some (depth + braceDepth style) := by
  cases style <;> rfl

theorem pieceLevel_closeBrace (style : BraceStyle) (depth : Nat) :
    pieceLevel (depth + braceDepth style) (closeBrace style) = some depth := by
  cases style <;> rfl

theorem pieceLevel_indentedIf (wanted : Bool) {body : List Piece}
    (balanced : ∀ depth, pieceLevel depth body = some depth) (depth : Nat) :
    pieceLevel depth (indentedIf wanted body) = some depth := by
  cases wanted with
  | false => exact balanced depth
  | true =>
      rw [indentedIf, if_pos rfl, pieceLevel_append, pieceLevel_append]
      have added : pieceLevel depth indent = some (depth + 1) := rfl
      rw [added, Option.bind_some, balanced]
      rfl

/-- A body may be moved back by one step only where there is indentation to take away. -/
theorem pieceLevel_outdentedIf (wanted : Bool) {body : List Piece}
    (balanced : ∀ depth, pieceLevel depth body = some depth) {depth : Nat} (deep : 0 < depth) :
    pieceLevel depth (outdentedIf wanted body) = some depth := by
  cases wanted with
  | false => exact balanced depth
  | true =>
      obtain ⟨shallow, rfl⟩ := Nat.exists_eq_add_of_lt deep
      rw [outdentedIf, if_pos rfl, pieceLevel_append, pieceLevel_append]
      have taken : pieceLevel (0 + shallow + 1) unindent = some (0 + shallow) := rfl
      rw [taken, Option.bind_some, balanced]
      rfl

/-- A plan leads back to the indentation it starts from. -/
theorem Matched.balanced {p q : Policy} {left right : List Piece} (matched : Matched p q left right)
    (depth : Nat) : pieceLevel depth left = some depth := by
  induction matched generalizing depth with
  | nil => rfl
  | append _ _ first second => rw [pieceLevel_append, first, Option.bind_some, second]
  | fixed found => exact pieceLevel_of_still (fun piece member => by
      rw [List.mem_singleton.mp member]
      exact shifted_of_fixed found) depth
  | blank every _ _ =>
      exact pieceLevel_of_still
        (fun piece member => shifted_of_blank (List.all_eq_true.mp every piece member)) depth
  | indented deep _ _ ih => exact pieceLevel_indentedIf deep ih depth
  | delimited opening before after _ _ ih =>
      rw [pieceLevel_append, pieceLevel_append]
      have opened : pieceLevel depth (Layout.symbol opening before) = some depth := rfl
      rw [opened, Option.bind_some, ih]
      rfl
  | @braced style _ flat _ _ _ _ _ ih =>
      have deep : 0 < depth + braceDepth style := by
        cases style <;> simp [braceDepth]
      rw [Layout.braced, pieceLevel_append, pieceLevel_append, pieceLevel_openBrace, Option.bind_some,
        pieceLevel_outdentedIf flat ih deep, Option.bind_some, pieceLevel_closeBrace]

section Steps

variable (policy : Policy) {node : Node} {address : List Nat} {above : Frames}

/-- Children that lead back to where they start leave the indentation to the pieces around them. -/
theorem partSteps_level {pieces : List Piece}
    (children : ∀ slot found, .child found ∈ pieces → slot < node.children.length → ∀ atLineStart,
      Balanced (settled atLineStart (steps policy found (slot :: address) (⟨node, address⟩ :: above))))
    (slot : Nat) (atLineStart : Bool) (depth : Nat) :
    level depth (settled atLineStart (partSteps policy node address above slot pieces)) =
      pieceLevel depth pieces := by
  induction pieces generalizing slot atLineStart depth with
  | nil => rfl
  | cons piece rest ih =>
      have first : level depth (settled atLineStart (pieceSteps policy node address above slot piece)) =
          piece.shifted depth := by
        cases piece with
        | event event =>
            rw [pieceSteps, settled, level_cons]
            exact Option.bind_fun_some _
        | gap => cases atLineStart <;> rfl
        | freshLine => cases atLineStart <;> rfl
        | hidden found => rfl
        | problem problem => rfl
        | child found =>
            rw [pieceSteps]
            split
            next present => exact children slot found List.mem_cons_self present atLineStart depth
            next => rfl
      rw [partSteps_cons, settled_append, level_append, first, pieceLevel_cons]
      congr 1
      funext between
      exact ih (fun slot found asked => children slot found (List.mem_cons_of_mem _ asked)) _ _ between

theorem steps_balanced (node : Node) (address : List Nat) (above : Frames) (atLineStart : Bool) :
    Balanced (settled atLineStart (steps policy node address above)) := by
  induction node, address, above using steps_induct generalizing atLineStart with
  | visit node address above ih =>
      rw [settled_steps]
      refine Balanced.visit (fun depth => ?_) node
      rw [partSteps_level policy fun slot found asked present =>
        ih slot found (mem_children_of_asked asked present)]
      exact (Matched.plan (p := policy) (q := policy) _ node).balanced depth

theorem body_balanced (node : Node) (address : List Nat) (above : Frames) (atLineStart : Bool) :
    Balanced (settled atLineStart
      (partSteps policy node address above 0 (plan policy (⟨node, address⟩ :: above) node))) := by
  intro depth
  rw [partSteps_level policy fun _ _ _ _ => steps_balanced policy _ _ _]
  exact (Matched.plan (p := policy) (q := policy) _ node).balanced depth

end Steps

end Layout

theorem events_balanced {policy : Policy} {node : Node} {found : List Event}
    (printed : events policy node = .ok found) :
    Nested (fun _ _ body => Balanced body) [node] found ∧ Balanced found := by
  obtain ⟨sound, rfl⟩ := events_eq_ok printed
  exact ⟨Layout.steps_nested (fun node address above atLineStart _ =>
    Layout.body_balanced policy node address above atLineStart) sound true,
    Layout.steps_balanced policy node [] [] true⟩

namespace Page

variable {δ : Type} [Destination δ]

/-- A page keeps the indentation that events lead to, as long as they take away no more than there is. -/
theorem emit_indentation (page : Page δ) {event : Event} {reached : Nat}
    (found : event.shifted page.indentation = some reached) : (page.emit event).indentation = reached := by
  rw [emit_eq]
  cases event with
  | unindent =>
      simp only [Event.shifted] at found
      split at found
      · simp at found
      · exact Option.some.inj found
  | _ => exact Option.some.inj found

theorem emitAll_level (events : List Event) (page : Page δ) {reached : Nat}
    (found : level page.indentation events = some reached) :
    (Writer.emitAll page events).indentation = reached := by
  induction events generalizing page with
  | nil => exact Option.some.inj found
  | cons event rest ih =>
      rw [level_cons] at found
      obtain ⟨between, step, later⟩ := Option.bind_eq_some_iff.mp found
      rw [Writer.emitAll_cons]
      refine ih (page.emit event) ?_
      rw [emit_indentation page step]
      exact later

theorem emitAll_indentation (events : List Event) (spaced : Spaced (Page δ)) {reached : Nat}
    (found : level spaced.inner.indentation events = some reached) :
    (Writer.emitAll spaced events).inner.indentation = reached := by
  rw [Spaced.emitAll_inner]
  exact emitAll_level _ spaced.inner ((level_withSpaces _ _ events).trans found)

end Page

/-- Inside every node that is printed, as much indentation is taken away as is added, and never more than
was added so far. So a page never has to take away more than it has, and ends with the indentation it
started with. -/
theorem indentation_is_given_back {policy : Policy} {node : Node} {found : List Event}
    (printed : events policy node = .ok found) :
    (∀ before inside after opened closed,
      found = before ++ .enter opened :: (inside ++ .leave closed :: after) → WellNested inside →
        inside.countP Event.isIndent = inside.countP Event.isUnindent ∧
          ∀ start, start <+: inside → start.countP Event.isUnindent ≤ start.countP Event.isIndent) ∧
    (∀ (δ : Type) [Destination δ] (spaced : Spaced (Page δ)),
      (∀ before after, found = before ++ .unindent :: after →
        0 < (Writer.emitAll spaced before).inner.indentation) ∧
      ∃ written, printTo policy node spaced = .ok written ∧
        written.inner.indentation = spaced.inner.indentation) := by
  obtain ⟨nested, balanced⟩ := events_balanced printed
  refine ⟨?_, fun δ _ spaced => ⟨?_, Writer.emitAll spaced found, ?_, ?_⟩⟩
  · intro before inside after opened closed split complete
    obtain ⟨_, body, rest, shape, even, visited⟩ := nested.leaves split
    have same : inside = body := complete.unique visited.wellNested shape
    rw [same]
    exact ⟨even.count_eq, fun start begins => even.count_le begins⟩
  · intro before after split
    have whole := balanced spaced.inner.indentation
    rw [split, level_append] at whole
    obtain ⟨reached, first, later⟩ := Option.bind_eq_some_iff.mp whole
    rw [Page.emitAll_indentation before spaced first]
    rw [level_cons, Event.shifted] at later
    by_cases empty : reached = 0
    · simp [empty] at later
    · omega
  · rw [printTo_eq_map_events, printed]
    rfl
  · exact Page.emitAll_indentation found spaced (balanced _)

def emptyBlockEvents : List Event :=
  [.token .openBrace "\x7b", .indent, .newline, .unindent, .token .closeBrace "\x7d", .newline]

theorem empty_block_indentation_is_given_back :
    events Policy.allman (.block ⟨[]⟩) =
        .ok ([] ++ .enter (.block ⟨[]⟩) :: (emptyBlockEvents ++ .leave (.block ⟨[]⟩) :: [])) ∧
      WellNested emptyBlockEvents ∧
      emptyBlockEvents.countP Event.isIndent = emptyBlockEvents.countP Event.isUnindent ∧
      ∃ written, printTo Policy.allman (.block ⟨[]⟩)
          (⟨Page.ofPolicy Policy.allman "", .whitespace⟩ : Spaced (Page String)) = .ok written ∧
        written.inner.indentation = 0 := by
  have printed : events Policy.allman (.block ⟨[]⟩) =
      .ok ([] ++ .enter (.block ⟨[]⟩) :: (emptyBlockEvents ++ .leave (.block ⟨[]⟩) :: [])) := by with_unfolding_all rfl
  have nested : WellNested emptyBlockEvents :=
    .cons rfl (.cons rfl (.cons rfl (.cons rfl (.cons rfl (.cons rfl .nil)))))
  obtain ⟨inside, pages⟩ := indentation_is_given_back printed
  exact ⟨printed, nested, (inside [] emptyBlockEvents [] _ _ rfl nested).1,
    (pages String ⟨Page.ofPolicy Policy.allman "", .whitespace⟩).2⟩

end CSharpLayout
