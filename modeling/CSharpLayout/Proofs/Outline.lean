import CSharpLayout.Proofs.Margins

/-! What a node writes itself. Seen from a node, its text is made of tokens of its own and of its children,
each as a whole: these are the parts that its plan lists, whatever white space a policy puts between
them. -/

namespace CSharpLayout

/-- A part of what is printed of a node: a token of its own, or all that is printed of a child. -/
inductive Part where
  | token (event : Event)
  | child (node : Node)

def Part.child? : Part → Option Node
  | .token _ => none
  | .child node => some node

def childrenAmong (parts : List Part) : List Node := parts.filterMap Part.child?

theorem childrenAmong_append (left right : List Part) :
    childrenAmong (left ++ right) = childrenAmong left ++ childrenAmong right := List.filterMap_append

def Event.parts (event : Event) : List Part := if event.isToken then [.token event] else []

theorem childrenAmong_parts (event : Event) : childrenAmong event.parts = [] := by
  unfold Event.parts
  split <;> rfl

/-- The parts of the node that is open, up to where it is left; `depth` counts the nodes that are open
inside it. -/
def outline : Nat → List Event → List Part
  | _, [] => []
  | 0, .enter node :: rest => .child node :: outline 1 rest
  | depth + 1, .enter _ :: rest => outline (depth + 2) rest
  | 0, .leave _ :: _ => []
  | depth + 1, .leave _ :: rest => outline depth rest
  | 0, event :: rest => event.parts ++ outline 0 rest
  | depth + 1, _ :: rest => outline (depth + 1) rest

theorem outline_plain {event : Event} (calm : event.isBoundary = false) (rest : List Event) :
    outline 0 (event :: rest) = event.parts ++ outline 0 rest := by
  cases event with
  | enter node => cases calm
  | leave node => cases calm
  | _ => rfl

theorem outline_inside {inside : List Event} (nested : WellNested inside) (depth : Nat) (rest : List Event) :
    outline (depth + 1) (inside ++ rest) = outline (depth + 1) rest := by
  obtain ⟨nodes, nested⟩ := nested
  induction nested generalizing depth rest with
  | nil => rfl
  | @plain event calm =>
      cases event with
      | enter node => cases calm
      | leave node => cases calm
      | _ => rfl
  | append _ _ first second => rw [List.append_assoc, first, second]
  | visit _ _ ih =>
      rw [List.cons_append, List.append_assoc, outline, ih]
      rfl

theorem outline_visit {node : Node} {body : List Event} (nested : WellNested body) (rest : List Event) :
    outline 0 (.enter node :: (body ++ [.leave node]) ++ rest) = .child node :: outline 0 rest := by
  rw [List.cons_append, List.append_assoc, outline, outline_inside nested]
  rfl

theorem Nested.childrenAmong_outline {fits : Node → List Node → List Event → Prop} {nodes : List Node}
    {events : List Event} (nested : Nested fits nodes events) (rest : List Event) :
    childrenAmong (outline 0 (events ++ rest)) = nodes ++ childrenAmong (outline 0 rest) := by
  induction nested generalizing rest with
  | nil => rfl
  | @plain event calm =>
      rw [List.singleton_append, outline_plain calm, childrenAmong_append, childrenAmong_parts]
  | append _ _ first second => rw [List.append_assoc, first, second, List.append_assoc]
  | visit _ inside _ =>
      rw [outline_visit inside.wellNested]
      rfl

theorem mem_of_outline {event : Event} {events : List Event} {depth : Nat}
    (member : .token event ∈ outline depth events) :
    event ∈ events := by
  fun_induction outline depth events with
  | case1 => cases member
  | case2 node rest ih =>
      rcases List.mem_cons.mp member with same | later
      · cases same
      · exact List.mem_cons_of_mem _ (ih later)
  | case3 depth node rest ih => exact List.mem_cons_of_mem _ (ih member)
  | case4 => cases member
  | case5 depth node rest ih => exact List.mem_cons_of_mem _ (ih member)
  | case6 first rest _ _ ih =>
      rcases List.mem_append.mp member with own | later
      · unfold Event.parts at own
        split at own
        · cases List.mem_singleton.mp own
          exact List.mem_cons_self
        · cases own
      · exact List.mem_cons_of_mem _ (ih later)
  | case7 depth first rest _ _ ih => exact List.mem_cons_of_mem _ (ih member)

def Piece.parts : Piece → List Part
  | .event written => written.parts
  | .child node => [.child node]
  | _ => []

namespace Layout

def sketch (pieces : List Piece) : List Part := pieces.flatMap Piece.parts

section Pieces

@[simp] theorem sketch_nil : sketch [] = [] := rfl

@[simp] theorem sketch_append (left right : List Piece) :
    sketch (left ++ right) = sketch left ++ sketch right :=
  List.flatMap_append

theorem sketch_cons (piece : Piece) (rest : List Piece) :
    sketch (piece :: rest) = piece.parts ++ sketch rest := rfl

@[simp] theorem sketch_gap (rest : List Piece) : sketch (.gap :: rest) = sketch rest := rfl

@[simp] theorem sketch_freshLine (rest : List Piece) : sketch (.freshLine :: rest) = sketch rest := rfl

@[simp] theorem sketch_word (text : String) : sketch (word text) = [.token (.keyword text)] := rfl

@[simp] theorem sketch_symbol (role : TokenRole) (text : String) :
    sketch (symbol role text) = [.token (.token role text)] := rfl

@[simp] theorem sketch_space : sketch space = [] := rfl

@[simp] theorem sketch_spaceIf (wanted : Bool) : sketch (spaceIf wanted) = [] := by cases wanted <;> rfl

@[simp] theorem sketch_newline : sketch newline = [] := rfl

@[simp] theorem sketch_indent : sketch indent = [] := rfl

@[simp] theorem sketch_unindent : sketch unindent = [] := rfl

@[simp] theorem sketch_visit (node : Node) : sketch (visit node) = [.child node] := rfl

@[simp] theorem sketch_visitAll (nodes : List Node) : sketch (visitAll nodes) = nodes.map .child := by
  induction nodes with
  | nil => rfl
  | cons node rest ih => exact congrArg (.child node :: ·) ih

@[simp] theorem sketch_comma (policy : Policy) (tight : Bool) :
    sketch (comma policy tight) = [.token (.token .comma ",")] := by
  simp [comma]

theorem sketch_commaSeparated_any {found : Part → Bool} (policy : Policy) (nodes : List Node)
    (child : ∀ node, found (.child node) = false) (separator : found (.token (.token .comma ",")) = false) :
    (sketch (commaSeparated policy nodes)).any found = false := by
  induction nodes with
  | nil => rfl
  | cons node rest ih =>
      cases rest with
      | nil => simp [commaSeparated, child]
      | cons next rest =>
          rw [commaSeparated]
          · simp [child, separator, ih]
          · exact List.cons_ne_nil next rest

@[simp] theorem sketch_braced (style : BraceStyle) (body : List Piece) :
    sketch (braced style body) =
      .token (.token .openBrace "\x7b") :: (sketch body ++ [.token (.token .closeBrace "\x7d")]) := by
  cases style <;> simp [braced, openBrace, closeBrace]

theorem childrenAmong_sketch (pieces : List Piece) :
    childrenAmong (sketch pieces) = chosen (held pieces) := by
  induction pieces with
  | nil => rfl
  | cons piece rest ih =>
      rw [sketch_cons, childrenAmong_append, ih]
      cases piece with
      | event event => rw [Piece.parts, childrenAmong_parts, List.nil_append, held_event]
      | _ => rfl

end Pieces

section Steps

variable {policy : Policy} {node : Node} {address : List Nat} {above : Frames}

theorem settled_own (slot : Nat) (event : Event) (rest : List Piece) (atLineStart : Bool) :
    settled atLineStart (partSteps policy node address above slot (.event event :: rest)) =
      event :: settled (event.lineStartAfter atLineStart)
        (partSteps policy node address above slot rest) := by
  rw [partSteps_cons]
  rfl

theorem identifier_of_sound {frames : Frames} {name : Identifier} {tokenClass : TokenClass} {slot : Nat}
    {rest : List Piece}
    (sound : firstFault?
      (partSteps policy node address above slot (identifier frames name tokenClass ++ rest)) = none) :
    identifier frames name tokenClass =
      [.event (.identifier (frames.escaped name) (name.tokenClass.getD tokenClass))] := by
  unfold identifier at sound ⊢
  split at sound
  next => cases sound
  next proper => exact if_neg proper

theorem outline_pieceSteps {piece : Piece} (still : piece.isBoundary = false) {slot : Nat}
    (sound : firstFault? (pieceSteps policy node address above slot piece) = none) (atLineStart : Bool)
    (rest : List Event) :
    outline 0 (settled atLineStart (pieceSteps policy node address above slot piece) ++ rest) =
      piece.parts ++ outline 0 rest := by
  cases piece with
  | event event => exact outline_plain still rest
  | gap => cases atLineStart <;> rfl
  | freshLine => cases atLineStart <;> rfl
  | hidden found => rfl
  | problem problem => rfl
  | child found =>
      rw [pieceSteps] at sound ⊢
      split at sound
      next present =>
        rw [firstFault?_steps] at sound
        rw [if_pos present, settled_steps]
        exact outline_visit (body_wellNested sound atLineStart) rest
      next => cases sound

theorem outline_partSteps {pieces : List Piece} (quiet : calm pieces = true) {slot : Nat}
    (sound : firstFault? (partSteps policy node address above slot pieces) = none) (atLineStart : Bool)
    (rest : List Event) :
    outline 0 (settled atLineStart (partSteps policy node address above slot pieces) ++ rest) =
      sketch pieces ++ outline 0 rest := by
  induction pieces generalizing slot atLineStart with
  | nil => rfl
  | cons piece pieces ih =>
      obtain ⟨first, others⟩ := firstFault?_partSteps_cons sound
      obtain ⟨still, calmRest⟩ := calm_cons quiet
      rw [partSteps_cons, settled_append, List.append_assoc, outline_pieceSteps still first,
        ih calmRest others, sketch_cons, List.append_assoc]

end Steps

namespace Visited

variable {policy : Policy} {opened : List Node} {atLineStart : Bool} {before after rest : List Event}
    {node : Node}
  {address : List Nat} {above : Frames}

/-- What is printed of a node has the parts that its plan stands for. -/
theorem outline_eq (visited : Visited policy opened atLineStart before node after address above rest) :
    outline 0 after = sketch (plan policy (⟨node, address⟩ :: above) node) := by
  rw [visited.body, outline_partSteps (calm_plan ..) visited.sound]
  exact List.append_nil _

theorem part (visited : Visited policy opened atLineStart before node after address above rest)
    {front middle back : List Piece}
    (shape : plan policy (⟨node, address⟩ :: above) node = front ++ (middle ++ back)) :
    ∃ written,
      firstFault? (partSteps policy node address above (slots front) middle) = none ∧
      (∃ start, after = settled (lineStartAfterEvents atLineStart before)
        (partSteps policy node address above 0 front) ++
        (written ++ (settled start (partSteps policy node address above (slots front + slots middle) back) ++
          .leave node :: rest))) ∧
      (∃ start, written = settled start (partSteps policy node address above (slots front) middle)) ∧
      WellNested written ∧ outline 0 written = sketch middle := by
  have quiet := calm_plan policy (⟨node, address⟩ :: above) node
  have sound := visited.sound
  have body := visited.body
  rw [shape, calm_append, calm_append, Bool.and_eq_true_iff, Bool.and_eq_true_iff] at quiet
  rw [shape, partSteps_append, partSteps_append, firstFault?_append, firstFault?_append,
    Option.or_eq_none_iff, Option.or_eq_none_iff, Nat.zero_add] at sound
  rw [shape, partSteps_append, partSteps_append, settled_append, settled_append, Nat.zero_add] at body
  refine ⟨_, sound.2.1, ⟨_, by rw [body, List.append_assoc, List.append_assoc]⟩, ⟨_, rfl⟩,
    partSteps_wellNested quiet.2.1 sound.2.1 _, ?_⟩
  rw [← List.append_nil (settled _ _), outline_partSteps quiet.2.1 sound.2.1]
  exact List.append_nil _

end Visited

end Layout

/-- Each node of a tree is printed by its plan, whatever the tree holds. -/
theorem events_entered {policy : Policy} {root node : Node} {found before after : List Event}
    (printed : events policy root = .ok found) (split : found = before ++ .enter node :: after) :
    ∃ address above rest, Layout.Visited policy [] true before node after address above rest := by
  have every : root.Every fun _ => True := fun _ _ => trivial
  obtain ⟨address, above, rest, _, _, visited⟩ := events_visited every printed split
  exact ⟨address, above, rest, visited⟩

end CSharpLayout
