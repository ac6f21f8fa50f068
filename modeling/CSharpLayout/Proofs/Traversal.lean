import CSharpLayout.Proofs.Nesting
import CSharpLayout.Proofs.Strokes

/-! Printing walks a tree. Nodes are entered in the order of a walk that visits parents before children and
passes over the children that are not printed, and the spans of a printed tree follow the same walk. -/

namespace CSharpLayout

namespace Node

/-- A node and everything printed below it, parents before children. -/
def visiblePreorder (node : Node) : List Node :=
  Descent.walk ⟨visibleChildren, fun _ _ visible => mem_children_of_visible visible⟩ node

/-- The same walk with the distance of every node from the root, which has distance `depth`. -/
def visibleWalk (depth : Nat) (node : Node) : List (Nat × Node) :=
  (depth, node) :: node.visibleChildren.attach.flatMap fun ⟨child, _⟩ => visibleWalk (depth + 1) child
termination_by sizeOf node
decreasing_by exact sizeOf_child_lt (mem_children_of_visible ‹_›)

theorem visibleWalk_eq (depth : Nat) (node : Node) :
    visibleWalk depth node = (depth, node) :: node.visibleChildren.flatMap (visibleWalk (depth + 1)) := by
  rw [visibleWalk]
  simp

theorem visiblePreorder_eq (node : Node) :
    visiblePreorder node = node :: node.visibleChildren.flatMap visiblePreorder := by
  have same : visiblePreorder =
      Descent.below ⟨visibleChildren, fun _ _ visible => mem_children_of_visible visible⟩ :=
    funext (Descent.walk_eq_below _)
  rw [same]
  exact Descent.below_eq _ node

theorem visibleWalk_nodes (depth : Nat) (node : Node) :
    (visibleWalk depth node).map Prod.snd = node.visiblePreorder := by
  induction depth, node using visibleWalk.induct with
  | case1 depth node ih =>
      rw [visibleWalk_eq, visiblePreorder_eq, List.map_cons, List.map_flatMap]
      congr 1
      simp only [List.flatMap_def]
      exact congrArg List.flatten (List.map_congr_left fun child visible => ih child visible)

end Node

namespace Event

def entered? : Event → Option Node
  | .enter node => some node
  | _ => none

end Event

/-- The nodes that are entered, each with the number of nodes that are open around it. -/
def entered (depth : Nat) : List Event → List (Nat × Node)
  | [] => []
  | .enter node :: rest => (depth, node) :: entered (depth + 1) rest
  | .leave _ :: rest => entered (depth - 1) rest
  | _ :: rest => entered depth rest

theorem entered_plain {event : Event} (calm : event.isBoundary = false) (depth : Nat) (rest : List Event) :
    entered depth (event :: rest) = entered depth rest := by
  cases event with
  | enter node => exact absurd calm (by simp [Event.isBoundary])
  | leave node => exact absurd calm (by simp [Event.isBoundary])
  | _ => rfl

theorem entered_nodes (depth : Nat) (events : List Event) :
    (entered depth events).map Prod.snd = events.filterMap Event.entered? := by
  induction events generalizing depth with
  | nil => rfl
  | cons event rest ih =>
      cases event with
      | enter node => simp [entered, Event.entered?, ih]
      | leave node => exact ih (depth - 1)
      | _ => exact ih depth

namespace Nested

theorem entered_append {fits : Node → List Node → List Event → Prop} {nodes : List Node} {events : List Event}
    (nested : Nested fits nodes events) (depth : Nat) (rest : List Event) :
    entered depth (events ++ rest) = entered depth events ++ entered depth rest := by
  induction nested generalizing depth rest with
  | nil => rfl
  | plain calm => simp [entered_plain calm, entered]
  | append _ _ first second => rw [List.append_assoc, first, second, first, List.append_assoc]
  | @visit node _ body _ _ ih =>
      have shape : (.enter node :: (body ++ [.leave node])) ++ rest =
          .enter node :: (body ++ .leave node :: rest) := by simp
      rw [shape, entered, entered, ih, ih, entered, entered]
      simp [entered]

/-- Visits that follow the printed children enter nodes in the order of the walk. -/
theorem entered_eq {nodes : List Node} {events : List Event}
    (nested : Nested (fun node inner _ => inner = node.visibleChildren) nodes events) (depth : Nat) :
    entered depth events = nodes.flatMap (Node.visibleWalk depth) := by
  induction nested generalizing depth with
  | nil => rfl
  | plain calm => simp [entered_plain calm, entered]
  | append left _ first second => rw [left.entered_append, first, second, List.flatMap_append]
  | visit inner body ih =>
      subst inner
      rw [entered, body.entered_append, ih, List.flatMap_singleton, Node.visibleWalk_eq]
      simp [entered]

end Nested

theorem events_nested {policy : Policy} {node : Node} {found : List Event}
    (printed : events policy node = .ok found) :
    Nested (fun node inner _ => inner = node.visibleChildren) [node] found := by
  obtain ⟨sound, rfl⟩ := events_eq_ok printed
  exact Layout.steps_nested (fun _ _ _ _ _ => rfl) sound true

def NodeSpan.visit (span : NodeSpan) : Nat × Nat × NodeKind := (span.index, span.depth, span.kind)

def places (start : Nat) (walk : List (Nat × Node)) : List (Nat × Nat × NodeKind) :=
  (walk.zipIdx start).map fun (visit, index) => (index, visit.1, visit.2.kind)

namespace Tracked

variable {σ : Type}

theorem modify_visits (spans : List NodeSpan) (slot : Nat) {change : NodeSpan → NodeSpan}
    (keeps : ∀ span, (change span).visit = span.visit) :
    (spans.modify slot change).map NodeSpan.visit = spans.map NodeSpan.visit := by
  induction spans generalizing slot with
  | nil => cases slot <;> rfl
  | cons span rest ih =>
      cases slot with
      | zero => simp [keeps]
      | succ slot => simp [ih]

theorem startAt_visits (tracked : Tracked σ) (here : Location) :
    (tracked.startAt here).spans.map NodeSpan.visit = tracked.spans.map NodeSpan.visit := by
  simp only [startAt]
  generalize tracked.waiting = waiting
  generalize tracked.spans = spans
  induction waiting generalizing spans with
  | nil => rfl
  | cons open_ rest ih =>
      rw [List.foldl_cons, ih]
      exact modify_visits spans open_.slot fun _ => rfl

theorem startAt_opened_length (tracked : Tracked σ) (here : Location) :
    (tracked.startAt here).opened.length = tracked.opened.length := by
  rw [startAt, List.length_append, List.length_map, waiting, ← List.length_append,
    List.takeWhile_append_dropWhile]

variable [Writer σ]

theorem emit_inner (tracked : Tracked σ) (event : Event) :
    (Writer.emit tracked event).inner = Writer.emit tracked.inner event := by
  cases event with
  | leave node =>
      simp only [Writer.emit, emit, leave]
      split <;> rfl
  | _ => rfl

theorem emit_visits (tracked : Tracked σ) (event : Event) :
    (Writer.emit tracked event).spans.map NodeSpan.visit =
      tracked.spans.map NodeSpan.visit ++
        places tracked.spans.length (entered tracked.opened.length [event]) := by
  cases event with
  | enter node => simp [Writer.emit, emit, enter, entered, places, NodeSpan.visit]
  | leave node =>
      simp only [Writer.emit, emit, leave]
      split
      · simp [entered, places]
      next slot started _ _ =>
        rw [modify_visits _ _ fun span => by cases started <;> rfl]
        simp [entered, places]
  | space => exact (List.append_nil _).symm
  | newline => exact (List.append_nil _).symm
  | indent => exact (List.append_nil _).symm
  | unindent => exact (List.append_nil _).symm
  | _ => exact (startAt_visits tracked _).trans (List.append_nil _).symm

theorem emit_opened (tracked : Tracked σ) (event : Event) (rest : List Event) :
    entered tracked.opened.length (event :: rest) =
      entered tracked.opened.length [event] ++ entered (Writer.emit tracked event).opened.length rest := by
  cases event with
  | enter node => simp [Writer.emit, emit, enter, entered]
  | leave node =>
      simp only [Writer.emit, emit, leave]
      split
      next none => simp [none, entered]
      next some => simp [some, entered]
  | space => rfl
  | newline => rfl
  | indent => rfl
  | unindent => rfl
  | _ => simp [Writer.emit, emit, Event.isToken, writeToken, startAt_opened_length, entered]

theorem emitAll_page (events : List Event) (tracked : Tracked σ) :
    (Writer.emitAll tracked events).inner = Writer.emitAll tracked.inner events := by
  induction events generalizing tracked with
  | nil => rfl
  | cons event rest ih => rw [Writer.emitAll_cons, Writer.emitAll_cons, ih, emit_inner]

theorem places_append (start : Nat) (left right : List (Nat × Node)) :
    places start (left ++ right) = places start left ++ places (start + left.length) right := by
  simp [places, List.zipIdx_append]

/-- Spans follow the walk: there is one for every node that is entered, in order. -/
theorem emitAll_places (events : List Event) (tracked : Tracked σ) :
    (Writer.emitAll tracked events).spans.map NodeSpan.visit =
      tracked.spans.map NodeSpan.visit ++ places tracked.spans.length
        (entered tracked.opened.length events) := by
  induction events generalizing tracked with
  | nil => exact (List.append_nil _).symm
  | cons event rest ih =>
      have added := congrArg List.length (emit_visits tracked event)
      simp only [List.length_map, List.length_append, places, List.length_zipIdx] at added
      rw [Writer.emitAll_cons, ih, emit_visits, emit_opened tracked event rest, places_append,
        List.append_assoc, added]

end Tracked

theorem entered_withSpaces (depth : Nat) (last : LastWritten) (events : List Event) :
    entered depth (withSpaces last events) = entered depth events := by
  induction events generalizing depth last with
  | nil => rfl
  | cons event rest ih =>
      have same : entered depth (event :: withSpaces (last.after event) rest) =
          entered depth (event :: rest) := by
        cases event <;> simp [entered, ih]
      rw [withSpaces]
      split
      · exact same
      · exact same

theorem printWithMap_eq (policy : Policy) (tree : SyntaxTree) :
    printWithMap policy tree = (events policy (.syntaxTree tree)).map fun found =>
      ((Page.after policy found).destination,
        (Writer.emitAll ({ inner := .ofPolicy policy "" } : Tracked (Page String))
          (withSpaces .whitespace found)).spans) := by
  rw [printWithMap, printTo_eq_map_events]
  cases events policy (.syntaxTree tree) with
  | error error => rfl
  | ok found =>
      have accepted := (Page.after_woven policy found).1
      rw [Page.after, Spaced.emitAll_inner] at accepted
      simp only [Except.map, bind, Except.bind, Spaced.emitAll_inner, Tracked.emitAll_page, Page.finish,
        Page.finish?, accepted, Page.after]
      rfl

theorem printWithMap_of_events {policy : Policy} {tree : SyntaxTree} {found : List Event}
    (printed : events policy (.syntaxTree tree) = .ok found) :
    ∃ spans, printWithMap policy tree = .ok ((Page.after policy found).destination, spans) ∧
      spans.map NodeSpan.visit = places 0 (entered 0 found) := by
  have visits := Tracked.emitAll_places (withSpaces .whitespace found)
    ({ inner := .ofPolicy policy "" } : Tracked (Page String))
  rw [entered_withSpaces] at visits
  exact ⟨_, by rw [printWithMap_eq, printed]; rfl, visits⟩

/-- A node that is printed is visited in a well nested way, its printed nodes in the order in which a stack
of nodes to visit meets them; the map of a printed tree has one span for each of them, in the same order. -/
theorem printing_walks_visible_nodes {policy : Policy} {node : Node} {found : List Event}
    (printed : events policy node = .ok found) :
    WellNested found ∧ found.filterMap Event.entered? = node.visiblePreorder ∧
      (node.visibleWalk 0).map Prod.snd = node.visiblePreorder ∧
      ∀ tree, node = .syntaxTree tree →
        ∃ text spans, printWithMap policy tree = .ok (text, spans) ∧
          spans.map (fun span => (span.index, span.depth, span.kind)) =
            (node.visibleWalk 0).zipIdx.map fun (visit, index) => (index, visit.1, visit.2.kind) := by
  have nested := events_nested printed
  have walk : entered 0 found = node.visibleWalk 0 := by
    rw [nested.entered_eq, List.flatMap_singleton]
  refine ⟨nested.wellNested, ?_, Node.visibleWalk_nodes 0 node, ?_⟩
  · rw [← entered_nodes 0, walk, Node.visibleWalk_nodes]
  · rintro tree rfl
    obtain ⟨spans, mapped, visits⟩ := printWithMap_of_events printed
    exact ⟨_, spans, mapped, walk ▸ visits⟩

def unlistedParameter : SyntaxTree where
  members := [.attributeSection ⟨none, [⟨.simple ⟨"A", false, none⟩ [],
    [.anonymousMethod false false [⟨[], .plain, none, some ⟨"x", false, none⟩, none⟩] ⟨[]⟩], false⟩]⟩]

theorem unlisted_parameter_is_passed_over : ∃ found,
    events Policy.kr (.syntaxTree unlistedParameter) = .ok found ∧ WellNested found ∧
      (found.filterMap Event.entered?).map Node.kind =
        [.syntaxTree, .attributeSection, .attributeUse, .simpleType, .anonymousMethod, .block] ∧
      ∃ text spans, printWithMap Policy.kr unlistedParameter = .ok (text, spans) ∧
        spans.map (fun span => (span.index, span.depth, span.kind)) =
          [(0, 0, .syntaxTree), (1, 1, .attributeSection), (2, 2, .attributeUse), (3, 3, .simpleType),
            (4, 3, .anonymousMethod), (5, 4, .block)] := by
  have fine : (events Policy.kr (.syntaxTree unlistedParameter)).isOk = true := by decide +kernel
  cases printed : events Policy.kr (.syntaxTree unlistedParameter) with
  | error _ => exact absurd fine (by rw [printed]; simp [Except.isOk, Except.toBool])
  | ok found =>
      obtain ⟨nested, walk, _, mapped⟩ := printing_walks_visible_nodes printed
      obtain ⟨text, spans, shown, visits⟩ := mapped unlistedParameter rfl
      refine ⟨found, rfl, nested, ?_, text, spans, shown, ?_⟩
      · rw [walk]
        decide +kernel
      · rw [visits]
        decide +kernel

end CSharpLayout
