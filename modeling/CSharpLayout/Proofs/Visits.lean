import CSharpLayout.Proofs.Composition

/-! Where a node is printed. The events of a tree that enter a node go on with the plan of that node, and a
child that is entered directly inside it takes one of the child pieces of that plan. -/

namespace CSharpLayout

namespace Node

/-- What holds of a node and of everything below it. -/
def Every (holds : Node → Prop) (node : Node) : Prop := ∀ part ∈ node.preorder, holds part

instance {holds : Node → Prop} [DecidablePred holds] (node : Node) : Decidable (node.Every holds) :=
  inferInstanceAs (Decidable (∀ part ∈ node.preorder, holds part))

variable {holds : Node → Prop} {node : Node}

theorem Every.self (every : node.Every holds) : holds node :=
  every node (by rw [preorder_eq]; exact List.mem_cons_self)

theorem Every.child {child : Node} (every : node.Every holds) (member : child ∈ node.children) :
    child.Every holds := by
  intro part below
  refine every part ?_
  rw [preorder_eq]
  exact List.mem_cons_of_mem _ (List.mem_flatMap.mpr ⟨child, member, below⟩)

theorem Every.children (every : node.Every holds) : ∀ child ∈ node.children, holds child :=
  fun _ member => (every.child member).self

theorem Every.imp {other : Node → Prop} (every : node.Every holds)
    (weaker : ∀ part, holds part → other part) :
    node.Every other := fun part below => weaker part (every part below)

end Node

def Event.openAfter (opened : List Node) : Event → List Node
  | .enter node => node :: opened
  | .leave _ => opened.tail
  | _ => opened

def openAfter (opened : List Node) (events : List Event) : List Node := events.foldl Event.openAfter opened

theorem openAfter_append (opened : List Node) (left right : List Event) :
    openAfter opened (left ++ right) = openAfter (openAfter opened left) right := List.foldl_append

theorem openAfter_plain {event : Event} (calm : event.isBoundary = false) (opened : List Node) :
    event.openAfter opened = opened := by
  cases event with
  | enter node => cases calm
  | leave node => cases calm
  | _ => rfl

theorem Nested.openAfter {fits : Node → List Node → List Event → Prop} {nodes : List Node}
    {events : List Event} (nested : Nested fits nodes events) (opened : List Node) :
    openAfter opened events = opened := by
  induction nested generalizing opened with
  | nil => rfl
  | plain calm => exact openAfter_plain calm opened
  | append _ _ first second => rw [openAfter_append, first, second]
  | @visit node _ body _ _ ih =>
      change CSharpLayout.openAfter (node :: opened) (body ++ [.leave node]) = opened
      rw [openAfter_append, ih]
      rfl

namespace WellNested

theorem append {left right : List Event} (first : WellNested left) (second : WellNested right) :
    WellNested (left ++ right) := by
  obtain ⟨nodes, first⟩ := first
  obtain ⟨nodes', second⟩ := second
  exact ⟨nodes ++ nodes', .append first second⟩

theorem of_plain {events : List Event} (plain : ∀ event ∈ events, event.isBoundary = false) :
    WellNested events :=
  ⟨[], .of_plain plain⟩

/-- Events that are well nested begin with an event of their own or with a complete visit. -/
theorem uncons {event : Event} {rest : List Event} (nested : WellNested (event :: rest)) :
    (event.isBoundary = false ∧ WellNested rest) ∨
      ∃ node body later, event = .enter node ∧ rest = body ++ .leave node :: later ∧ WellNested body ∧
        WellNested later := by
  obtain ⟨nodes, nested⟩ := nested
  generalize shape : event :: rest = events at nested
  induction nested generalizing event rest with
  | nil => cases shape
  | plain calm =>
      cases shape
      exact .inl ⟨calm, .nil⟩
  | @append _ _ left right _ second ih ih' =>
      cases left with
      | nil => exact ih' shape
      | cons first others =>
          obtain ⟨rfl, rfl⟩ := List.cons.inj shape
          have behind := second.wellNested
          rcases ih rfl with ⟨calm, nested⟩ | ⟨node, body, later, rfl, rfl, inside, nested⟩
          · exact .inl ⟨calm, nested.append behind⟩
          · exact .inr ⟨node, body, later ++ right, rfl, by simp, inside, nested.append behind⟩
  | @visit node _ body _ nested _ =>
      obtain ⟨rfl, rfl⟩ := List.cons.inj shape
      exact .inr ⟨node, body, [], rfl, rfl, nested.wellNested, .nil⟩

theorem uncons_visit {node child : Node} {body later left right : List Event} (inside : WellNested body)
    (split : .enter node :: (body ++ .leave node :: later) = left ++ .enter child :: right)
    (nested : WellNested left) :
    (left = [] ∧ child = node ∧ right = body ++ .leave node :: later) ∨
      ∃ behind, left = .enter node :: (body ++ .leave node :: behind) ∧
        later = behind ++ .enter child :: right ∧
        WellNested behind := by
  cases left with
  | nil =>
      obtain ⟨same, rfl⟩ := List.cons.inj split
      cases same
      exact .inl ⟨rfl, rfl, rfl⟩
  | cons first others =>
      rw [List.cons_append] at split
      obtain ⟨rfl, rest⟩ := List.cons.inj split
      rcases nested.uncons with ⟨calm, _⟩ | ⟨_, body', behind, same, rfl, inside', nested'⟩
      · cases calm
      · cases same
        rw [List.append_assoc, List.cons_append] at rest
        have equal := inside.unique inside' rest
        subst equal
        have cut := List.cons.inj (List.append_cancel_left rest)
        exact .inr ⟨behind, rfl, cut.2, nested'⟩

theorem uncons_plain {own later left right : List Event} {child : Node}
    (plain : ∀ event ∈ own, event.isBoundary = false) (split : own ++ later = left ++ .enter child :: right)
    (nested : WellNested left) :
    ∃ behind, left = own ++ behind ∧ later = behind ++ .enter child :: right ∧ WellNested behind := by
  induction own generalizing left with
  | nil => exact ⟨left, rfl, split, nested⟩
  | cons event own ih =>
      have calm := plain event List.mem_cons_self
      cases left with
      | nil =>
          cases (List.cons.inj split).1
          cases calm
      | cons first others =>
          obtain ⟨rfl, rest⟩ := List.cons.inj split
          rcases nested.uncons with ⟨_, nested⟩ | ⟨_, _, _, rfl, _⟩
          · obtain ⟨behind, rfl, rfl, nested⟩ :=
              ih (fun event member => plain event (List.mem_cons_of_mem _ member)) rest nested
            exact ⟨behind, rfl, rfl, nested⟩
          · cases calm

end WellNested

theorem append_cut {α : Type} {left right before after : List α} {item : α}
    (split : left ++ right = before ++ item :: after) :
    (∃ rest, left = before ++ item :: rest ∧ after = rest ++ right) ∨
      ∃ start, right = start ++ item :: after ∧ before = left ++ start := by
  rcases append_split split with inLeft | ⟨start, inRight⟩
  · exact .inl inLeft
  · rw [inRight, ← List.append_assoc] at split
    exact .inr ⟨start, inRight, (List.append_cancel_right split).symm⟩

/-- A place in a complete visit is not inside any other visit, or there is an innermost visit around it. -/
theorem WellNested.innermost {before after : List Event} {event : Event}
    (nested : WellNested (before ++ event :: after)) :
    WellNested before ∨ ∃ outer parent left, before = outer ++ .enter parent :: left ∧ WellNested left := by
  obtain ⟨nodes, nested⟩ := nested
  generalize shape : before ++ event :: after = events at nested
  induction nested generalizing before after with
  | nil => simp at shape
  | plain _ =>
      cases before with
      | nil => exact .inl .nil
      | cons first rest => simp at shape
  | @append _ _ left right first _ ih ih' =>
      rcases append_cut shape.symm with ⟨rest, inLeft, _⟩ | ⟨start, inRight, rfl⟩
      · exact ih inLeft.symm
      · rcases ih' inRight.symm with nested | ⟨outer, parent, inner, rfl, nested⟩
        · exact .inl (first.wellNested.append nested)
        · exact .inr ⟨left ++ outer, parent, inner, (List.append_assoc ..).symm, nested⟩
  | @visit node _ body _ inside ih =>
      cases before with
      | nil => exact .inl .nil
      | cons first before =>
          obtain ⟨rfl, cut⟩ := List.cons.inj shape
          rcases append_cut cut.symm with ⟨rest, inBody, _⟩ | ⟨start, inTail, rfl⟩
          · rcases ih inBody.symm with nested | ⟨outer, parent, inner, rfl, nested⟩
            · exact .inr ⟨[], node, before, rfl, nested⟩
            · exact .inr ⟨.enter node :: outer, parent, inner, rfl, nested⟩
          · cases start with
            | nil => exact .inr ⟨[], node, body, by simp, inside.wellNested⟩
            | cons first start => simp at inTail

namespace Layout

/-- What follows the event that enters a node: `before` are the events up to that one, `after` those behind
it, and `opened` and `atLineStart` tell what was before the first of them. -/
structure Visited (policy : Policy) (opened : List Node) (atLineStart : Bool) (before : List Event)
    (node : Node) (after : List Event) (address : List Nat) (above : Frames) (rest : List Event) : Prop where
  nodes : above.map Frame.node = openAfter opened before
  sound : firstFault?
    (partSteps policy node address above 0 (plan policy (⟨node, address⟩ :: above) node)) = none
  body : after = settled (lineStartAfterEvents atLineStart before)
    (partSteps policy node address above 0 (plan policy (⟨node, address⟩ :: above) node)) ++
      .leave node :: rest

namespace Visited

variable {policy : Policy} {opened : List Node} {atLineStart : Bool} {before after rest : List Event}
    {node : Node}
  {address : List Nat} {above : Frames}

theorem later {front : List Event}
    (visited : Visited policy (openAfter opened front) (lineStartAfterEvents atLineStart front) before node
      after address
      above rest) : Visited policy opened atLineStart (front ++ before) node after address above rest where
  nodes := by rw [visited.nodes, openAfter_append]
  sound := visited.sound
  body := by rw [lineStartAfterEvents_append, ← visited.body]

theorem followed (visited : Visited policy opened atLineStart before node after address above rest)
    (more : List Event) :
    Visited policy opened atLineStart before node (after ++ more) address above (rest ++ more) where
  nodes := visited.nodes
  sound := visited.sound
  body := by
    conv => lhs; rw [visited.body]
    rw [List.append_assoc, List.cons_append]

end Visited

section Steps

variable {policy : Policy} {node : Node} {address : List Nat} {above : Frames}

theorem steps_wellNested (sound : firstFault? (steps policy node address above) = none) (atLineStart : Bool) :
    WellNested (settled atLineStart (steps policy node address above)) :=
  ⟨[node], steps_nested (fun _ _ _ _ _ => trivial) sound atLineStart⟩

theorem pieceSteps_wellNested {piece : Piece} (still : piece.isBoundary = false) {slot : Nat}
    (sound : firstFault? (pieceSteps policy node address above slot piece) = none) (atLineStart : Bool) :
    WellNested (settled atLineStart (pieceSteps policy node address above slot piece)) := by
  rcases pieceSteps_cases still sound with ⟨_, plain⟩ | ⟨_, _, present, whole⟩
  · exact .of_plain (plain atLineStart)
  · rw [whole] at sound ⊢
    exact steps_wellNested sound atLineStart

theorem partSteps_wellNested {pieces : List Piece} (quiet : calm pieces = true) {slot : Nat}
    (sound : firstFault? (partSteps policy node address above slot pieces) = none) (atLineStart : Bool) :
    WellNested (settled atLineStart (partSteps policy node address above slot pieces)) := by
  induction pieces generalizing slot atLineStart with
  | nil => exact .nil
  | cons piece rest ih =>
      obtain ⟨first, others⟩ := firstFault?_partSteps_cons sound
      obtain ⟨still, calmRest⟩ := calm_cons quiet
      rw [partSteps_cons, settled_append]
      exact (pieceSteps_wellNested still first atLineStart).append (ih calmRest others _)

theorem body_wellNested
    (sound : firstFault?
      (partSteps policy node address above 0 (plan policy (⟨node, address⟩ :: above) node)) = none)
    (atLineStart : Bool) :
    WellNested (settled atLineStart
      (partSteps policy node address above 0 (plan policy (⟨node, address⟩ :: above) node))) :=
  partSteps_wellNested (calm_plan policy (⟨node, address⟩ :: above) node) sound atLineStart

theorem partSteps_visited {holds : Node → Prop}
    (children : ∀ slot, ∀ child ∈ node.children, ∀ atLineStart,
      firstFault? (steps policy child (slot :: address) (⟨node, address⟩ :: above)) = none →
      ∀ before found after,
        settled atLineStart (steps policy child (slot :: address) (⟨node, address⟩ :: above)) =
          before ++ .enter found :: after →
        ∃ address' above' rest, found.Every holds ∧
          (found = child ∧ before = [] ∨ ∃ parent : Node, found ∈ parent.children) ∧
          Visited policy (node :: above.map Frame.node) atLineStart before found after address' above' rest)
    {pieces : List Piece}
    (own : ∀ slot child, .child child ∈ pieces → slot < node.children.length → child ∈ node.children)
    (quiet : calm pieces = true) (slot : Nat)
    (sound : firstFault? (partSteps policy node address above slot pieces) = none) (atLineStart : Bool)
    {before after : List Event} {found : Node}
    (split : settled atLineStart (partSteps policy node address above slot pieces) =
      before ++ .enter found :: after) :
    ∃ address' above' rest, found.Every holds ∧ (∃ parent : Node, found ∈ parent.children) ∧
      Visited policy (node :: above.map Frame.node) atLineStart before found after address' above' rest := by
  induction pieces generalizing slot atLineStart before after with
  | nil => simp [partSteps_nil, settled] at split
  | cons piece rest ih =>
      obtain ⟨first, others⟩ := firstFault?_partSteps_cons sound
      obtain ⟨still, calmRest⟩ := calm_cons quiet
      rw [partSteps_cons, settled_append] at split
      rcases append_cut split with ⟨inner, inFirst, rfl⟩ | ⟨start, inRest, rfl⟩
      · rcases pieceSteps_cases still first with ⟨_, plain⟩ | ⟨child, rfl, present, whole⟩
        · cases plain atLineStart (.enter found) (inFirst ▸ List.mem_append_right _ List.mem_cons_self)
        · rw [whole] at first inFirst
          have member := own slot child List.mem_cons_self present
          obtain ⟨address', above', rest', every, origin, visited⟩ :=
            children slot child member atLineStart first _ _ _ inFirst
          refine ⟨address', above', _, every, ?_, visited.followed _⟩
          rcases origin with ⟨rfl, _⟩ | deeper
          · exact ⟨node, member⟩
          · exact deeper
      · obtain ⟨address', above', rest', every, origin, visited⟩ :=
          ih (fun slot child asked => own slot child (List.mem_cons_of_mem _ asked)) calmRest _
            others _ inRest
        -- What the piece itself writes closes what it opens, so the same nodes are open behind it.
        obtain ⟨_, nested⟩ := pieceSteps_wellNested still first atLineStart
        refine ⟨address', above', rest', every, origin, Visited.later ?_⟩
        rw [nested.openAfter, lineStartAfterEvents_settled]
        exact visited

/-- A node that is entered while another one is printed is printed there by its own plan. -/
theorem steps_visited {holds : Node → Prop} (every : node.Every holds)
    (sound : firstFault? (steps policy node address above) = none) (atLineStart : Bool)
    {before after : List Event} {found : Node}
    (split : settled atLineStart (steps policy node address above) = before ++ .enter found :: after) :
    ∃ address' above' rest, found.Every holds ∧
      (found = node ∧ before = [] ∨ ∃ parent : Node, found ∈ parent.children) ∧
      Visited policy (above.map Frame.node) atLineStart before found after address' above' rest := by
  induction node, address, above using steps_induct generalizing atLineStart before after found with
  | visit node address above ih =>
      rw [firstFault?_steps] at sound
      rw [settled_steps] at split
      cases before with
      | nil =>
          obtain ⟨same, rfl⟩ := List.cons.inj split
          cases same
          exact ⟨address, above, [], every, .inl ⟨rfl, rfl⟩, ⟨rfl, sound, rfl⟩⟩
      | cons first others =>
          rw [List.cons_append] at split
          obtain ⟨rfl, inside⟩ := List.cons.inj split
          rcases append_cut inside with ⟨inner, inBody, rfl⟩ | ⟨start, inTail, _⟩
          · obtain ⟨address', above', rest, every', origin, visited⟩ :=
              partSteps_visited
                (fun slot child member atLineStart sound _ _ _ split =>
                  ih slot child member (every.child member) sound atLineStart split)
                (fun _ _ asked present => mem_children_of_asked asked present)
                (calm_plan policy (⟨node, address⟩ :: above) node) 0 sound atLineStart inBody
            have entered : Visited policy (above.map Frame.node) atLineStart ([.enter node] ++ others) found
                inner address'
                above' rest := Visited.later visited
            exact ⟨address', above', _, every', .inr origin, entered.followed _⟩
          · cases start with
            | nil => cases (List.cons.inj inTail).1
            | cons _ _ => simp at inTail

theorem slot_cons (slot : Nat) (piece : Piece) (rest : List Piece) :
    slot + slots (piece :: rest) = (if piece.isChild then slot + 1 else slot) + slots rest := by
  cases child : piece.isChild with
  | false => simp [slots, child]
  | true =>
      simp only [slots, List.countP_cons, child, if_true]
      omega

/-- A child that is entered directly inside a node takes one of the child pieces of its plan. -/
theorem partSteps_child {pieces : List Piece} (quiet : calm pieces = true) {slot : Nat}
    (taken : (held pieces).map Prod.snd <+: node.children.drop slot)
    (sound : firstFault? (partSteps policy node address above slot pieces) = none) {atLineStart : Bool}
    {left right rest : List Event} {child : Node}
    (split : settled atLineStart (partSteps policy node address above slot pieces) ++ .leave node :: rest =
      left ++ .enter child :: right) (nested : WellNested left) :
    ∃ front back, pieces = front ++ .child child :: back ∧
      left = settled atLineStart (partSteps policy node address above slot front) ∧
      ∃ present : slot + slots front < node.children.length, node.children[slot + slots front] = child := by
  induction pieces generalizing slot atLineStart left with
  | nil =>
      cases left with
      | nil => cases (List.cons.inj split).1
      | cons first others =>
          cases (List.cons.inj split).1
          rcases nested.uncons with ⟨calm, _⟩ | ⟨_, _, _, same, _⟩
          · cases calm
          · cases same
  | cons piece pieces ih =>
      obtain ⟨first, others⟩ := firstFault?_partSteps_cons sound
      obtain ⟨still, calmRest⟩ := calm_cons quiet
      obtain ⟨here, behind⟩ := taken_cons taken
      rw [partSteps_cons, settled_append, List.append_assoc] at split
      -- Where the child is not the one that this piece prints, it is found among the pieces behind.
      have further {inner : List Event}
          (shape : left = settled atLineStart (pieceSteps policy node address above slot piece) ++ inner)
          (split' : settled
            (lineStartAfterSteps atLineStart (pieceSteps policy node address above slot piece))
              (partSteps policy node address above (if piece.isChild then slot + 1 else slot) pieces) ++
                .leave node :: rest = inner ++ .enter child :: right) (nested' : WellNested inner) :
          ∃ front back, piece :: pieces = front ++ .child child :: back ∧
            left = settled atLineStart (partSteps policy node address above slot front) ∧
            ∃ present : slot + slots front < node.children.length,
              node.children[slot + slots front] = child := by
        obtain ⟨front, back, rfl, rfl, present, same⟩ := ih calmRest behind others split' nested'
        refine ⟨piece :: front, back, rfl, ?_, ?_⟩
        · rw [shape, partSteps_cons, settled_append]
        · simp only [slot_cons]
          exact ⟨present, same⟩
      rcases pieceSteps_cases still first with ⟨_, plain⟩ | ⟨found, rfl, present, whole⟩
      · obtain ⟨inner, shape, split', nested'⟩ := nested.uncons_plain (plain atLineStart) split
        exact further shape split' nested'
      · obtain ⟨_, rfl⟩ := here found rfl
        rw [whole, firstFault?_steps] at first
        simp only [whole, settled_steps] at split further
        have visit := split
        simp only [List.cons_append, List.append_assoc, List.nil_append] at visit
        rcases WellNested.uncons_visit (body_wellNested first atLineStart) visit nested with
          ⟨rfl, rfl, _⟩ | ⟨inner, shape, split', nested'⟩
        · exact ⟨[], pieces, rfl, rfl, present, rfl⟩
        · refine further ?_ split' nested'
          simpa [settled, Event.lineStartAfter] using shape

end Steps

def childSteps (policy : Policy) (node : Node) (address : List Nat) (above : Frames) (slot : Nat)
    (child : Node) :
    List Step := steps policy child (slot :: address) (⟨node, address⟩ :: above)

namespace Visited

variable {policy : Policy} {opened : List Node} {atLineStart : Bool} {before after rest : List Event}
    {node : Node}
  {address : List Nat} {above : Frames}

theorem child (visited : Visited policy opened atLineStart before node after address above rest)
    {left right : List Event} {child : Node} (split : after = left ++ .enter child :: right)
    (nested : WellNested left) :
    ∃ front back, plan policy (⟨node, address⟩ :: above) node = front ++ .child child :: back ∧
      (∃ present : slots front < node.children.length, node.children[slots front] = child) ∧
      left = settled (lineStartAfterEvents atLineStart before) (partSteps policy node address above 0 front) ∧
      .enter child :: right =
        settled (lineStartAfterEvents atLineStart (before ++ left))
            (childSteps policy node address above (slots front) child ++
              partSteps policy node address above (slots front + 1) back) ++ .leave node :: rest := by
  have whole := visited.body.symm.trans split
  obtain ⟨front, back, shape, rfl, present, same⟩ :=
    partSteps_child (calm_plan policy (⟨node, address⟩ :: above) node)
      (taken_of_sound visited.sound ▸ List.prefix_rfl) visited.sound whole nested
  simp only [Nat.zero_add] at present same
  refine ⟨front, back, shape, ⟨present, same⟩, rfl, ?_⟩
  rw [shape, partSteps_append, settled_append, List.append_assoc] at whole
  have rest := List.append_cancel_left whole
  rw [← rest, Nat.zero_add, partSteps_cons, lineStartAfterEvents_append, lineStartAfterEvents_settled]
  simp only [pieceSteps, if_pos present, childSteps]
  rfl

end Visited

theorem childless_of_plain {policy : Policy} {node : Node} {address : List Nat} {above : Frames} {slot : Nat}
    {pieces : List Piece} (sound : firstFault? (partSteps policy node address above slot pieces) = none)
    {atLineStart : Bool}
    (plain : ∀ event ∈ settled atLineStart (partSteps policy node address above slot pieces),
      event.isBoundary = false)
    (child : Node) : .child child ∉ pieces := by
  induction pieces generalizing slot atLineStart with
  | nil => exact List.not_mem_nil
  | cons piece rest ih =>
      obtain ⟨first, others⟩ := firstFault?_partSteps_cons sound
      rw [partSteps_cons, settled_append] at plain
      have behind := ih others fun event member => plain event (List.mem_append_right _ member)
      rintro (_ | ⟨_, later⟩)
      · by_cases present : slot < node.children.length
        · simp only [pieceSteps, if_pos present, settled_steps] at plain
          have entered := plain (.enter child) (List.mem_append_left _ List.mem_cons_self)
          cases entered
        · simp [pieceSteps, present] at first
      · exact behind later

end Layout

theorem events_visited {policy : Policy} {root node : Node} {found before after : List Event}
    {holds : Node → Prop} (every : root.Every holds) (printed : events policy root = .ok found)
    (split : found = before ++ .enter node :: after) :
    ∃ address above rest, node.Every holds ∧
      (node = root ∧ before = [] ∨ ∃ parent : Node, node ∈ parent.children) ∧
      Layout.Visited policy [] true before node after address above rest := by
  obtain ⟨sound, rfl⟩ := events_eq_ok printed
  exact Layout.steps_visited every sound true split

/-- A visit of a child directly inside a node of a printed tree: `before` are the events until the node is
entered, `upTo` those until the child is entered, `through` those until it is left, and `after` the rest. -/
structure ChildVisit (found before : List Event) (parent child : Node) (upTo through after : List Event) :
    Prop where
  entered : ∃ left, upTo = before ++ .enter parent :: left ∧ WellNested left
  visited : ∃ inner, through = upTo ++ .enter child :: (inner ++ [.leave child]) ∧ WellNested inner
  whole : found = through ++ after

namespace Layout

structure PlannedVisit (policy : Policy) (before : List Event) (parent child : Node)
    (upTo through after : List Event) (address : List Nat) (above : Frames) (front back : List Piece)
    (rest : List Event) : Prop where
  shape : plan policy (⟨parent, address⟩ :: above) parent = front ++ .child child :: back
  nodes : above.map Frame.node = openAfter [] before
  slot : ∃ present : slots front < parent.children.length, parent.children[slots front] = child
  taken : (held front).map Prod.snd ++ child :: (held back).map Prod.snd = parent.children
  frontSound : firstFault? (partSteps policy parent address above 0 front) = none
  childSound : firstFault? (childSteps policy parent address above (slots front) child) = none
  backSound : firstFault? (partSteps policy parent address above (slots front + 1) back) = none
  start : upTo = before ++ .enter parent ::
    settled (lineStartAfterEvents true before) (partSteps policy parent address above 0 front)
  finish : through = upTo ++
    settled (lineStartAfterEvents true upTo) (childSteps policy parent address above (slots front) child)
  later : after = settled (lineStartAfterEvents true through)
    (partSteps policy parent address above (slots front + 1) back) ++ .leave parent :: rest

namespace PlannedVisit

variable {policy : Policy} {before upTo through after rest : List Event} {parent child : Node}
    {address : List Nat}
  {above : Frames} {front back : List Piece}

theorem member
    (visit : PlannedVisit policy before parent child upTo through after address above front back rest) :
    child ∈ parent.children := by
  obtain ⟨present, rfl⟩ := visit.slot
  exact List.getElem_mem present

theorem fine (visit : PlannedVisit policy before parent child upTo through after address above
    front back rest) :
    flawed (plan policy (⟨parent, address⟩ :: above) parent) = false := by
  rw [visit.shape, flawed_append, flawed_of_sound visit.frontSound]
  exact (flawed_of_sound visit.backSound :)

theorem quiet
    (visit : PlannedVisit policy before parent child upTo through after address above front back rest) :
    calm back = true := by
  have whole := calm_plan policy (⟨parent, address⟩ :: above) parent
  rw [visit.shape, calm_append] at whole
  exact (Bool.and_eq_true_iff.mp whole).2

theorem last {more : List Event}
    (visit : PlannedVisit policy before parent child upTo through after address above front back rest)
    (left : after = .leave parent :: more) (node : Node) : .child node ∉ back := by
  have nested := partSteps_wellNested visit.quiet visit.backSound (lineStartAfterEvents true through)
  have none := nested.unique .nil (visit.later.symm.trans left)
  have plain : ∀ event ∈ settled (lineStartAfterEvents true through)
      (partSteps policy parent address above (slots front + 1) back), event.isBoundary = false := by
    rw [none]
    exact List.forall_mem_nil _
  exact childless_of_plain visit.backSound plain node

end PlannedVisit

end Layout

theorem ChildVisit.planned {policy : Policy} {parent child : Node}
    {found before upTo through after later rest : List Event} {address : List Nat} {above : Frames}
    (visit : ChildVisit found before parent child upTo through after)
    (whole : found = before ++ .enter parent :: later)
    (visited : Layout.Visited policy [] true before parent later address above rest) :
    ∃ front back,
      Layout.PlannedVisit policy before parent child upTo through after address above front back rest := by
  obtain ⟨left, rfl, nested⟩ := visit.entered
  obtain ⟨inner, rfl, inside⟩ := visit.visited
  have split : later = left ++ .enter child :: (inner ++ .leave child :: after) := by
    have same := whole.symm.trans visit.whole
    simpa using same
  obtain ⟨front, back, shape, ⟨present, here⟩, same, tail⟩ := visited.child split nested
  have taken := Layout.taken_of_sound visited.sound
  rw [shape, Layout.held_append, List.map_append, List.drop_zero] at taken
  have sound := visited.sound
  rw [shape, Layout.partSteps_append, firstFault?_append, Option.or_eq_none_iff, Nat.zero_add] at sound
  obtain ⟨childSound, backSound⟩ := Layout.firstFault?_partSteps_cons sound.2
  simp only [Layout.pieceSteps, if_pos present] at childSound
  have line : lineStartAfterEvents true (before ++ .enter parent :: left) =
      lineStartAfterEvents true (before ++ left) := by
    rw [lineStartAfterEvents_append, lineStartAfterEvents_append]
    rfl
  -- The visit that is cut out of the events is the one that the steps of the child make.
  obtain ⟨body, written, complete⟩ : ∃ body,
      settled (lineStartAfterEvents true (before ++ left))
        (Layout.childSteps policy parent address above (Layout.slots front) child) =
          .enter child :: (body ++ [.leave child]) ∧ WellNested body := by
    rw [Layout.firstFault?_steps] at childSound
    rw [Layout.childSteps, Layout.settled_steps]
    exact ⟨_, rfl, Layout.body_wellNested childSound _⟩
  rw [settled_append, written] at tail
  simp only [List.cons_append, List.append_assoc, List.nil_append] at tail
  obtain rfl := inside.unique complete (List.cons.inj tail).2
  have behind := (List.cons.inj (List.append_cancel_left (List.cons.inj tail).2)).2
  refine ⟨front, back, shape, visited.nodes, ⟨present, here⟩, taken, sound.1,
    childSound, backSound, by rw [← same], by rw [line, written], ?_⟩
  rw [lineStartAfterEvents_append, line, ← written, lineStartAfterEvents_settled]
  exact behind

theorem ChildVisit.whole_eq {found before upTo through after : List Event} {parent child : Node}
    (visit : ChildVisit found before parent child upTo through after) :
    ∃ later, found = before ++ .enter parent :: later := by
  obtain ⟨left, rfl, _⟩ := visit.entered
  obtain ⟨inner, rfl, _⟩ := visit.visited
  exact ⟨left ++ .enter child :: (inner ++ .leave child :: after), by simp [visit.whole]⟩

/-- A node that is printed inside a tree is a child of the innermost node around it. -/
theorem events_inParent {policy : Policy} {root node : Node} {found before later : List Event}
    {holds : Node → Prop} (every : root.Every holds) (printed : events policy root = .ok found)
    (split : found = before ++ .enter node :: later) (below : node ≠ root) :
    ∃ outer parent through after address above front back rest, parent.Every holds ∧
      openAfter [] before = parent :: openAfter [] outer ∧
        (∃ body, later = body ++ .leave node :: after ∧ WellNested body) ∧
      Layout.PlannedVisit policy outer parent node before through after address above front back rest := by
  obtain ⟨sound, whole⟩ := events_eq_ok printed
  have nested : WellNested found := whole ▸ Layout.steps_wellNested sound true
  rw [split] at nested
  rcases nested.innermost with outside | ⟨outer, parent, left, rfl, inside⟩
  · -- Nothing but the root itself is entered outside of every visit.
    rw [Layout.trace, Layout.firstFault?_steps] at sound
    rw [Layout.trace, Layout.settled_steps, split] at whole
    have cut : .enter root :: (_ ++ .leave root :: []) = before ++ .enter node :: later := whole.symm
    rcases WellNested.uncons_visit (Layout.body_wellNested sound true) cut outside with
      ⟨_, same, _⟩ | ⟨behind, _, missing, _⟩
    · exact absurd same below
    · simp at missing
  · obtain ⟨_, _, rest, _, _, visited⟩ := events_visited every printed split
    have outermost : found = outer ++ .enter parent :: (left ++ .enter node :: later) := by simp [split]
    obtain ⟨address, above, rest', everyParent, _, entered⟩ := events_visited every printed outermost
    have body := Layout.body_wellNested visited.sound
      (lineStartAfterEvents true (outer ++ .enter parent :: left))
    have visit : ChildVisit found outer parent node (outer ++ .enter parent :: left) _ rest :=
      ⟨⟨left, rfl, inside⟩, ⟨_, rfl, body⟩, by
        rw [split, visited.body]
        simp only [List.append_assoc, List.cons_append, List.nil_append]⟩
    obtain ⟨front, back, planned⟩ := visit.planned outermost entered
    obtain ⟨_, complete⟩ := inside
    refine ⟨outer, parent, _, rest, address, above, front, back, rest', everyParent, ?_,
      ⟨_, visited.body, body⟩, planned⟩
    rw [openAfter_append]
    exact complete.openAfter _

end CSharpLayout
