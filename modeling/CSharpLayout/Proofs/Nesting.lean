import CSharpLayout.Proofs.Reflow
import CSharpLayout.Layout.Slots

/-! How events nest. Between the event that enters a node and the one that leaves it stand the events of the
node's printed children, one child after the other, and events that neither enter nor leave. -/

namespace CSharpLayout

def Event.isBoundary : Event → Bool
  | .enter _ => true
  | .leave _ => true
  | _ => false

/-- Events that visit the given nodes one after the other. Every visit stands between entering and leaving a
node, and `fits` holds of each node, the nodes that are visited right inside it, and the events of its
visit. -/
inductive Nested (fits : Node → List Node → List Event → Prop) : List Node → List Event → Prop
  | nil : Nested fits [] []
  | plain {event : Event} : event.isBoundary = false → Nested fits [] [event]
  | append {nodes nodes' : List Node} {left right : List Event} : Nested fits nodes left →
      Nested fits nodes' right → Nested fits (nodes ++ nodes') (left ++ right)
  | visit {node : Node} {inner : List Node} {body : List Event} : fits node inner body →
      Nested fits inner body → Nested fits [node] (.enter node :: (body ++ [.leave node]))

/-- Every node that is entered is left again, and nodes that are open close in reverse order. -/
def WellNested (events : List Event) : Prop := ∃ nodes, Nested (fun _ _ _ => True) nodes events

namespace Nested

variable {fits : Node → List Node → List Event → Prop} {nodes : List Node} {events : List Event}

theorem mono {fits' : Node → List Node → List Event → Prop}
    (weaker : ∀ node inner body, fits node inner body → fits' node inner body)
    (nested : Nested fits nodes events) : Nested fits' nodes events := by
  induction nested with
  | nil => exact .nil
  | plain calm => exact .plain calm
  | append _ _ first second => exact .append first second
  | visit suits _ ih => exact .visit (weaker _ _ _ suits) ih

theorem followed {left : List Event} (first : Nested fits [] left) (rest : Nested fits nodes events) :
    Nested fits nodes (left ++ events) := append first rest

theorem of_plain (plain : ∀ event ∈ events, event.isBoundary = false) : Nested fits [] events := by
  induction events with
  | nil => exact .nil
  | cons event rest ih =>
      obtain ⟨calm, others⟩ := List.forall_mem_cons.mp plain
      exact (Nested.plain calm).followed (ih others)

theorem wellNested (nested : Nested fits nodes events) : WellNested events :=
  ⟨nodes, nested.mono fun _ _ _ _ => trivial⟩

end Nested

theorem WellNested.nil : WellNested [] := ⟨[], .nil⟩

theorem WellNested.cons {event : Event} {rest : List Event} (calm : event.isBoundary = false)
    (nested : WellNested rest) : WellNested (event :: rest) := by
  obtain ⟨nodes, nested⟩ := nested
  exact ⟨nodes, (Nested.plain calm).followed nested⟩

def upToLeave (depth : Nat) : List Event → Option (List Event)
  | [] => none
  | .enter node :: rest => (upToLeave (depth + 1) rest).map (.enter node :: ·)
  | .leave node :: rest =>
      match depth with
      | 0 => some []
      | depth + 1 => (upToLeave depth rest).map (.leave node :: ·)
  | event :: rest => (upToLeave depth rest).map (event :: ·)

theorem upToLeave_plain {event : Event} (calm : event.isBoundary = false) (depth : Nat) (rest : List Event) :
    upToLeave depth (event :: rest) = (upToLeave depth rest).map (event :: ·) := by
  cases event with
  | enter node => exact absurd calm (by simp [Event.isBoundary])
  | leave node => exact absurd calm (by simp [Event.isBoundary])
  | _ => rfl

theorem Nested.upToLeave_append {fits : Node → List Node → List Event → Prop} {nodes : List Node}
    {events : List Event} (nested : Nested fits nodes events) (depth : Nat) (rest : List Event) :
    upToLeave depth (events ++ rest) = (upToLeave depth rest).map (events ++ ·) := by
  induction nested generalizing depth rest with
  | nil => simp
  | plain calm => exact upToLeave_plain calm depth rest
  | append _ _ first second =>
      rw [List.append_assoc, first, second, Option.map_map]
      simp [Function.comp_def]
  | @visit node _ body _ _ ih =>
      have shape : (.enter node :: (body ++ [.leave node])) ++ rest =
          .enter node :: (body ++ .leave node :: rest) := by simp
      rw [shape, upToLeave, ih, upToLeave, Option.map_map, Option.map_map]
      simp [Function.comp_def]

/-- The event that leaves a node is determined by the events after the one that enters it. -/
theorem WellNested.unique {first second after after' : List Event} {node node' : Node}
    (nested : WellNested first) (nested' : WellNested second)
    (same : first ++ .leave node :: after = second ++ .leave node' :: after') : first = second := by
  obtain ⟨_, nested⟩ := nested
  obtain ⟨_, nested'⟩ := nested'
  have left := nested.upToLeave_append 0 (.leave node :: after)
  have right := nested'.upToLeave_append 0 (.leave node' :: after')
  rw [same, right] at left
  simpa [upToLeave] using left.symm

theorem append_split {α : Type} {left right before after : List α} {item : α}
    (split : left ++ right = before ++ item :: after) :
    (∃ rest, left = before ++ item :: rest ∧ after = rest ++ right) ∨
      ∃ start, right = start ++ item :: after := by
  rcases List.append_eq_append_iff.mp split with ⟨middle, _, inRight⟩ | ⟨middle, inLeft, shared⟩
  · exact .inr ⟨middle, inRight⟩
  · cases middle with
    | nil => exact .inr ⟨[], shared.symm⟩
    | cons first rest =>
        obtain ⟨rfl, rfl⟩ := List.cons.inj shared
        exact .inl ⟨rest, inLeft, rfl⟩

/-- Every node that is entered is left again, with a fitting visit in between. -/
theorem Nested.leaves {fits : Node → List Node → List Event → Prop} {nodes : List Node} {events : List Event}
    (nested : Nested fits nodes events) {node : Node} {before after : List Event}
    (split : events = before ++ .enter node :: after) :
    ∃ inner body rest, after = body ++ .leave node :: rest ∧ fits node inner body ∧
      Nested fits inner body := by
  induction nested generalizing before after with
  | nil => simp at split
  | plain calm =>
      cases before with
      | nil =>
          obtain ⟨rfl, _⟩ := List.cons.inj split
          exact absurd calm (by simp [Event.isBoundary])
      | cons first others => simp at split
  | append _ _ ih ih' =>
      rcases append_split split with ⟨more, inLeft, rfl⟩ | ⟨_, inRight⟩
      · obtain ⟨inner, body, rest, rfl, suits, visited⟩ := ih inLeft
        exact ⟨inner, body, _, by rw [List.append_assoc, List.cons_append], suits, visited⟩
      · exact ih' inRight
  | @visit found inner body suits visited ih =>
      cases before with
      | nil =>
          obtain ⟨same, rfl⟩ := List.cons.inj split
          cases same
          exact ⟨inner, body, [], rfl, suits, visited⟩
      | cons first others =>
          rcases append_split (List.cons.inj split).2 with ⟨more, inBody, rfl⟩ | ⟨start, inTail⟩
          · obtain ⟨inner, body, rest, rfl, suits, visited⟩ := ih inBody
            exact ⟨inner, body, _, by rw [List.append_assoc, List.cons_append], suits, visited⟩
          · cases start <;> simp at inTail

def Piece.isBoundary : Piece → Bool
  | .event found => found.isBoundary
  | _ => false

namespace Layout

def calm (pieces : List Piece) : Bool := pieces.all fun piece => !piece.isBoundary

theorem calm_append (left right : List Piece) : calm (left ++ right) = (calm left && calm right) :=
  List.all_append

theorem calm_cons {piece : Piece} {rest : List Piece} (quiet : calm (piece :: rest) = true) :
    piece.isBoundary = false ∧ calm rest = true := by
  have both : (!piece.isBoundary && calm rest) = true := quiet
  simpa using both

theorem calm_of_layout {pieces : List Piece} (layout : pieces.all Piece.isLayout = true) :
    calm pieces = true := by
  refine List.all_eq_true.mpr fun piece member => ?_
  have found := List.all_eq_true.mp layout piece member
  cases piece with
  | event event =>
      cases event with
      | enter node => exact absurd found (by simp [Piece.isLayout, Event.isLayout])
      | leave node => exact absurd found (by simp [Piece.isLayout, Event.isLayout])
      | _ => rfl
  | _ => rfl

theorem calm_of_fixed {piece : Piece} (fixed : piece.isFixed = true) : calm [piece] = true := by
  cases piece with
  | event event =>
      cases event with
      | enter node => exact absurd fixed (by simp [Piece.isFixed, Event.isToken])
      | leave node => exact absurd fixed (by simp [Piece.isFixed, Event.isToken])
      | _ => rfl
  | _ => rfl

theorem calm_around {before body after : List Piece} (first : before.all isShift = true)
    (second : after.all isShift = true) (inside : calm body = true) :
    calm (before ++ body ++ after) = true := by
  rw [calm_append, calm_append, inside, calm_of_layout (all_layout_of_shift first),
    calm_of_layout (all_layout_of_shift second)]
  rfl

theorem calm_braced (style : BraceStyle) {body : List Piece} (inside : calm body = true) :
    calm (braced style body) = true := by
  have opening : calm (openBrace style) = true := by cases style <;> rfl
  have closing : calm (closeBrace style) = true := by cases style <;> rfl
  rw [braced, calm_append, calm_append, opening, inside, closing]
  rfl

theorem Matched.calm {p q : Policy} {left right : List Piece} (matched : Matched p q left right) :
    Layout.calm left = true := by
  induction matched with
  | nil => rfl
  | append _ _ first second => rw [calm_append, first, second]; rfl
  | fixed found => exact calm_of_fixed found
  | blank every _ _ =>
      refine calm_of_layout (List.all_eq_true.mpr fun piece member => ?_)
      exact Piece.isLayout_of_isBlank (List.all_eq_true.mp every piece member)
  | indented deep _ _ ih =>
      obtain ⟨before, after, first, second, shape⟩ := indentedIf_shape deep
      rw [shape]
      exact calm_around first second ih
  | delimited opening before after _ _ ih =>
      rw [calm_append, calm_append, ih]
      rfl
  | braced flat _ _ _ ih =>
      obtain ⟨before, after, first, second, shape⟩ := outdentedIf_shape flat
      rw [shape]
      exact calm_braced _ (calm_around first second ih)

theorem calm_plan (policy : Policy) (frames : Frames) (node : Node) : calm (plan policy frames node) = true :=
  (Matched.plan (p := policy) (q := policy) frames node).calm

theorem drop_eq_cons {α : Type} {items rest : List α} {first : α} {slot : Nat}
    (same : first :: rest = items.drop slot) :
    ∃ present : slot < items.length, items[slot] = first ∧ rest = items.drop (slot + 1) := by
  have present : slot < items.length := by
    by_cases present : slot < items.length
    · exact present
    · rw [List.drop_eq_nil_of_le (by omega)] at same
      simp at same
  rw [List.drop_eq_getElem_cons present] at same
  obtain ⟨rfl, rfl⟩ := List.cons.inj same
  exact ⟨present, rfl, rfl⟩

theorem chosen_held_cons {piece : Piece} (own : ∀ found, piece ≠ .child found) (rest : List Piece) :
    chosen (held (piece :: rest)) = chosen (held rest) := by
  cases piece with
  | child found => exact absurd rfl (own found)
  | _ => rfl

theorem taken_cons {piece : Piece} {rest : List Piece} {nodes : List Node} {slot : Nat}
    (taken : (held (piece :: rest)).map Prod.snd <+: nodes.drop slot) :
    (∀ found, piece = .child found → ∃ present : slot < nodes.length, nodes[slot] = found) ∧
      (held rest).map Prod.snd <+: nodes.drop (if piece.isChild then slot + 1 else slot) := by
  obtain ⟨more, whole⟩ := taken
  cases piece with
  | child found =>
      change found :: ((held rest).map Prod.snd ++ more) = _ at whole
      obtain ⟨present, same, behind⟩ := drop_eq_cons whole
      refine ⟨fun other equal => ?_, more, behind⟩
      cases equal
      exact ⟨present, same⟩
  | hidden found =>
      change found :: ((held rest).map Prod.snd ++ more) = _ at whole
      obtain ⟨_, _, behind⟩ := drop_eq_cons whole
      exact ⟨fun _ equal => Piece.noConfusion equal, more, behind⟩
  | _ => exact ⟨fun _ equal => Piece.noConfusion equal, more, whole⟩

section Steps

variable {policy : Policy} {node : Node} {address : List Nat} {above : Frames}

theorem firstFault?_partSteps_cons {slot : Nat} {piece : Piece} {rest : List Piece}
    (sound : firstFault? (partSteps policy node address above slot (piece :: rest)) = none) :
    firstFault? (pieceSteps policy node address above slot piece) = none ∧
      firstFault? (partSteps policy node address above (if piece.isChild then slot + 1 else slot) rest) =
        none := by
  rw [partSteps_cons, firstFault?_append] at sound
  exact Option.or_eq_none_iff.mp sound

/-- What a piece without a fault writes: events that enter and leave nothing, or all that is printed of a
child. -/
theorem pieceSteps_cases {piece : Piece} (still : piece.isBoundary = false) {slot : Nat}
    (sound : firstFault? (pieceSteps policy node address above slot piece) = none) :
    ((∀ found, piece ≠ .child found) ∧
      ∀ atLineStart, ∀ event ∈ settled atLineStart (pieceSteps policy node address above slot piece),
        event.isBoundary = false) ∨
      ∃ found, piece = .child found ∧ slot < node.children.length ∧
        pieceSteps policy node address above slot piece =
          steps policy found (slot :: address) (⟨node, address⟩ :: above) := by
  cases piece with
  | event event =>
      have calm : event.isBoundary = false := still
      exact .inl ⟨fun _ equal => Piece.noConfusion equal,
        fun atLineStart => by simpa [pieceSteps, settled] using calm⟩
  | gap =>
      refine .inl ⟨fun _ equal => Piece.noConfusion equal, fun atLineStart => ?_⟩
      cases atLineStart <;> simp [pieceSteps, settled, Event.isBoundary]
  | freshLine =>
      refine .inl ⟨fun _ equal => Piece.noConfusion equal, fun atLineStart => ?_⟩
      cases atLineStart <;> simp [pieceSteps, settled, Event.isBoundary]
  | hidden found =>
      exact .inl ⟨fun _ equal => Piece.noConfusion equal, fun _ => by simp [pieceSteps, settled]⟩
  | problem problem => simp [pieceSteps] at sound
  | child found =>
      by_cases present : slot < node.children.length
      · exact .inr ⟨found, rfl, present, if_pos present⟩
      · simp [pieceSteps, present] at sound

theorem flawed_of_sound {slot : Nat} {pieces : List Piece}
    (sound : firstFault? (partSteps policy node address above slot pieces) = none) :
    flawed pieces = false := by
  induction pieces generalizing slot with
  | nil => rfl
  | cons piece rest ih =>
      obtain ⟨first, others⟩ := firstFault?_partSteps_cons sound
      have fine := ih others
      cases piece with
      | problem problem => simp [pieceSteps] at first
      | _ => exact fine

theorem chosen_of_childless {slot : Nat} {pieces : List Piece} (childless : node.children = [])
    (sound : firstFault? (partSteps policy node address above slot pieces) = none) :
    chosen (held pieces) = [] := by
  induction pieces generalizing slot with
  | nil => rfl
  | cons piece rest ih =>
      obtain ⟨first, others⟩ := firstFault?_partSteps_cons sound
      have nothing := ih others
      cases piece with
      | child found => simp [pieceSteps, childless] at first
      | _ => exact nothing

theorem children_of_embeds {node : Node} (some : embeds node ≠ []) : node.children = [] := by
  unfold embeds at some
  split at some
  · rfl
  · rfl
  · rfl
  · exact absurd rfl some

theorem embeds_of_sound
    (sound : firstFault? (partSteps policy node address above 0
      (plan policy (⟨node, address⟩ :: above) node)) = none) : embeds node = [] := by
  by_cases some : embeds node = []
  · exact some
  · have childless := children_of_embeds some
    have nothing := chosen_of_childless childless sound
    rw [held_plan _ _ _ (flawed_of_sound sound), chosen_append, shown, chosen_map] at nothing
    exact (List.append_eq_nil_iff.mp nothing).2

theorem held_of_sound
    (sound : firstFault? (partSteps policy node address above 0
      (plan policy (⟨node, address⟩ :: above) node)) = none) :
    held (plan policy (⟨node, address⟩ :: above) node) = node.markedChildren :=
  held_plan_of_plain policy _ (embeds_of_sound sound) fun _ => flawed_of_sound sound

theorem taken_of_sound
    (sound : firstFault? (partSteps policy node address above 0
      (plan policy (⟨node, address⟩ :: above) node)) = none) :
    (held (plan policy (⟨node, address⟩ :: above) node)).map Prod.snd = node.children.drop 0 := by
  rw [held_of_sound sound, Node.markedChildren_snd]
  rfl

theorem partSteps_nested {fits : Node → List Node → List Event → Prop} {pieces : List Piece}
    (children : ∀ slot found, .child found ∈ pieces → slot < node.children.length → ∀ atLineStart,
      firstFault? (steps policy found (slot :: address) (⟨node, address⟩ :: above)) = none →
      Nested fits [found]
        (settled atLineStart (steps policy found (slot :: address) (⟨node, address⟩ :: above))))
    (quiet : calm pieces = true) (slot : Nat)
    (sound : firstFault? (partSteps policy node address above slot pieces) = none) (atLineStart : Bool) :
    Nested fits (chosen (held pieces))
      (settled atLineStart (partSteps policy node address above slot pieces)) := by
  induction pieces generalizing slot atLineStart with
  | nil => exact .nil
  | cons piece rest ih =>
      obtain ⟨first, others⟩ := firstFault?_partSteps_cons sound
      obtain ⟨still, calmRest⟩ := calm_cons quiet
      have later :=
        ih (fun slot found asked => children slot found (List.mem_cons_of_mem _ asked)) calmRest _ others
      rw [partSteps_cons, settled_append]
      rcases pieceSteps_cases still first with ⟨own, plain⟩ | ⟨found, rfl, present, whole⟩
      · rw [chosen_held_cons own]
        exact (Nested.of_plain (plain _)).followed (later _)
      · rw [whole] at first ⊢
        exact .append (children slot found List.mem_cons_self present atLineStart first) (later _)

/-- Printing a node visits it and, inside it, its printed children. What `fits` asks of the events inside a
node has to hold of all nodes. -/
theorem steps_nested {fits : Node → List Node → List Event → Prop}
    (bodies : ∀ node address above atLineStart,
      firstFault? (partSteps policy node address above 0 (plan policy (⟨node, address⟩ :: above) node)) =
        none →
      fits node node.visibleChildren
        (settled atLineStart
          (partSteps policy node address above 0 (plan policy (⟨node, address⟩ :: above) node))))
    (sound : firstFault? (steps policy node address above) = none) (atLineStart : Bool) :
    Nested fits [node] (settled atLineStart (steps policy node address above)) := by
  induction node, address, above using steps_induct generalizing atLineStart with
  | visit node address above ih =>
      rw [firstFault?_steps] at sound
      have visits := partSteps_nested
        (fun slot found asked present atLineStart sound =>
          ih slot found (mem_children_of_asked asked present) sound atLineStart)
        (calm_plan ..) 0 sound atLineStart
      rw [held_of_sound sound, Node.chosen_markedChildren] at visits
      rw [settled_steps]
      exact .visit (bodies node address above atLineStart sound) visits

end Steps

end Layout

end CSharpLayout
