import CSharpLayout.Layout.Print

/-! What printing comes to. A node is opened, its plan is carried out piece by piece, and it is closed; the
first fault ends the run, and without one every writer is sent the same events. -/

namespace CSharpLayout

def Step.fault? : Step → Option Fault
  | .fault found => some found
  | _ => none

def firstFault? (steps : List Step) : Option Fault := steps.findSome? Step.fault?

@[simp] theorem firstFault?_opens (frame : Frame) (rest : List Step) :
    firstFault? (.opens frame :: rest) = firstFault? rest := rfl

@[simp] theorem firstFault?_closes (frame : Frame) (rest : List Step) :
    firstFault? (.closes frame :: rest) = firstFault? rest := rfl

@[simp] theorem firstFault?_event (event : Event) (rest : List Step) :
    firstFault? (.event event :: rest) = firstFault? rest := rfl

@[simp] theorem firstFault?_gap (rest : List Step) : firstFault? (.gap :: rest) = firstFault? rest := rfl

@[simp] theorem firstFault?_freshLine (rest : List Step) :
    firstFault? (.freshLine :: rest) = firstFault? rest := rfl

@[simp] theorem firstFault?_fault (found : Fault) (rest : List Step) :
    firstFault? (.fault found :: rest) = some found := rfl

/-- The events of steps without a fault. -/
def settled (atLineStart : Bool) : List Step → List Event
  | [] => []
  | .opens _ :: rest => settled atLineStart rest
  | .closes _ :: rest => settled atLineStart rest
  | .event event :: rest => event :: settled (event.lineStartAfter atLineStart) rest
  | .gap :: rest => if atLineStart then settled true rest else .space :: settled false rest
  | .freshLine :: rest => if atLineStart then settled true rest else .newline :: settled true rest
  | .fault _ :: rest => settled atLineStart rest

def lineStartAfterSteps (atLineStart : Bool) : List Step → Bool
  | [] => atLineStart
  | .opens _ :: rest => lineStartAfterSteps atLineStart rest
  | .closes _ :: rest => lineStartAfterSteps atLineStart rest
  | .event event :: rest => lineStartAfterSteps (event.lineStartAfter atLineStart) rest
  | .gap :: rest => lineStartAfterSteps atLineStart rest
  | .freshLine :: rest => lineStartAfterSteps true rest
  | .fault _ :: rest => lineStartAfterSteps atLineStart rest

theorem settled_append (atLineStart : Bool) (left right : List Step) :
    settled atLineStart (left ++ right) =
      settled atLineStart left ++ settled (lineStartAfterSteps atLineStart left) right := by
  induction left generalizing atLineStart with
  | nil => rfl
  | cons step rest ih =>
      cases step with
      | opens frame => simp [settled, lineStartAfterSteps, ih]
      | closes frame => simp [settled, lineStartAfterSteps, ih]
      | event event => simp [settled, lineStartAfterSteps, ih]
      | gap => cases atLineStart <;> simp [settled, lineStartAfterSteps, ih]
      | freshLine => cases atLineStart <;> simp [settled, lineStartAfterSteps, ih]
      | fault found => simp [settled, lineStartAfterSteps, ih]

theorem firstFault?_append (left right : List Step) :
    firstFault? (left ++ right) = (firstFault? left).or (firstFault? right) := by
  simp [firstFault?, List.findSome?_append]

/-- The nodes that are open after steps, unless one is closed that is not the innermost. -/
def framesAfter (frames : Frames) : List Step → Option Frames
  | [] => some frames
  | .opens frame :: rest => framesAfter (frame :: frames) rest
  | .closes frame :: rest =>
      match frames with
      | [] => none
      | top :: outer => if top.isSame frame then framesAfter outer rest else none
  | .event _ :: rest => framesAfter frames rest
  | .gap :: rest => framesAfter frames rest
  | .freshLine :: rest => framesAfter frames rest
  | .fault _ :: rest => framesAfter frames rest

theorem Frame.isSame_self (frame : Frame) : frame.isSame frame = true := by simp [Frame.isSame]

theorem framesAfter_append (frames : Frames) (left right : List Step) :
    framesAfter frames (left ++ right) = (framesAfter frames left).bind (framesAfter · right) := by
  induction left generalizing frames with
  | nil => rfl
  | cons step rest ih =>
      cases step with
      | closes frame =>
          cases frames with
          | nil => rfl
          | cons top outer =>
              simp only [List.cons_append, framesAfter]
              split
              · exact ih outer
              · rfl
      | _ => exact ih _

namespace Writer

variable {σ : Type} [Writer σ]

theorem emitAll_cons (writer : σ) (event : Event) (rest : List Event) :
    emitAll writer (event :: rest) = emitAll (emit writer event) rest := rfl

theorem emitAll_append (writer : σ) (left right : List Event) :
    emitAll writer (left ++ right) = emitAll (emitAll writer left) right := List.foldl_append

theorem emitAll_singleton (writer : σ) (event : Event) : emitAll writer [event] = emit writer event := rfl

end Writer

theorem framesAfter_closes {frames after : Frames} {frame : Frame} {rest : List Step}
    (balanced : framesAfter frames (.closes frame :: rest) = some after) :
    ∃ top outer, frames = top :: outer ∧ top.isSame frame = true ∧ framesAfter outer rest = some after := by
  cases frames with
  | nil => cases balanced
  | cons top outer =>
      simp only [framesAfter] at balanced
      split at balanced
      next same => exact ⟨top, outer, rfl, same, balanced⟩
      next => cases balanced

namespace Progress

variable {σ : Type} [Writer σ]

theorem step_closes (writer : σ) (atLineStart : Bool) {top frame : Frame} (outer : Frames)
    (same : top.isSame frame = true) :
    ({ writer, atLineStart, frames := top :: outer } : Progress σ).step (.closes frame) =
      { writer, atLineStart, frames := outer } := by
  simp [step, close, same]

theorem run_cons (progress : Progress σ) (step : Step) (rest : List Step) :
    progress.run (step :: rest) = (progress.step step).run rest := rfl

theorem run_of_fault (progress : Progress σ) (steps : List Step)
    (stopped : progress.fault.isSome = true) : progress.run steps = progress := by
  induction steps with
  | nil => rfl
  | cons step rest ih =>
      have same : progress.step step = progress := if_pos stopped
      rw [run_cons, same, ih]

theorem run_fault (writer : σ) (atLineStart : Bool) {frames after : Frames} {steps : List Step}
    (balanced : framesAfter frames steps = some after) :
    (({ writer, atLineStart, frames } : Progress σ).run steps).fault = firstFault? steps := by
  induction steps generalizing writer atLineStart frames with
  | nil => rfl
  | cons step rest ih =>
      rw [run_cons]
      cases step with
      | opens frame => exact ih _ _ balanced
      | closes frame =>
          obtain ⟨top, outer, rfl, same, balanced⟩ := framesAfter_closes balanced
          rw [step_closes writer atLineStart outer same]
          exact ih _ _ balanced
      | event event => exact ih _ _ balanced
      | gap => cases atLineStart <;> exact ih _ _ balanced
      | freshLine => cases atLineStart <;> exact ih _ _ balanced
      | fault found => rw [run_of_fault _ _ rfl]; rfl

theorem run_sound (writer : σ) (atLineStart : Bool) {frames after : Frames} {steps : List Step}
    (balanced : framesAfter frames steps = some after) (sound : firstFault? steps = none) :
    (({ writer, atLineStart, frames } : Progress σ).run steps).writer =
        Writer.emitAll writer (settled atLineStart steps) ∧
      (({ writer, atLineStart, frames } : Progress σ).run steps).frames = after := by
  induction steps generalizing writer atLineStart frames with
  | nil => exact ⟨rfl, Option.some.inj balanced⟩
  | cons step rest ih =>
      rw [run_cons]
      cases step with
      | opens frame => exact ih _ _ balanced sound
      | closes frame =>
          obtain ⟨top, outer, rfl, same, balanced⟩ := framesAfter_closes balanced
          rw [step_closes writer atLineStart outer same]
          exact ih _ _ balanced sound
      | event event => exact ih _ _ balanced sound
      | gap => cases atLineStart <;> exact ih _ _ balanced sound
      | freshLine => cases atLineStart <;> exact ih _ _ balanced sound
      | fault found => simp at sound

end Progress

namespace Layout

def slots (pieces : List Piece) : Nat := pieces.countP Piece.isChild

theorem numbered_append (slot : Nat) (left right : List Piece) :
    numbered slot (left ++ right) = numbered slot left ++ numbered (slot + slots left) right := by
  induction left generalizing slot with
  | nil => rfl
  | cons piece rest ih =>
      cases child : piece.isChild with
      | false => simp [numbered, slots, child, ih]
      | true =>
          simp only [List.cons_append, numbered, child, if_true, ih, slots, List.countP_cons]
          rw [show slot + 1 + rest.countP Piece.isChild = slot + (rest.countP Piece.isChild + 1) by omega]

section Steps

variable (policy : Policy) (node : Node) (address : List Nat) (above : Frames)

def pieceSteps (slot : Nat) : Piece → List Step
  | .event event => [.event event]
  | .gap => [.gap]
  | .freshLine => [.freshLine]
  | .child found =>
      if slot < node.children.length then steps policy found (slot :: address) (⟨node, address⟩ :: above)
      else [.fault ⟨⟨node, address⟩ :: above, .stray found.kind⟩]
  | .hidden _ => []
  | .problem problem => [.fault ⟨⟨node, address⟩ :: above, .malformed problem⟩]

/-- The steps of a part of a plan whose children take the slots from `slot` on. -/
def partSteps (slot : Nat) (pieces : List Piece) : List Step :=
  (numbered slot pieces).flatMap fun item => pieceSteps policy node address above item.1 item.2

theorem partSteps_nil (slot : Nat) : partSteps policy node address above slot [] = [] := rfl

theorem partSteps_cons (slot : Nat) (piece : Piece) (rest : List Piece) :
    partSteps policy node address above slot (piece :: rest) =
      pieceSteps policy node address above slot piece ++
        partSteps policy node address above (if piece.isChild then slot + 1 else slot) rest := by
  simp [partSteps, numbered]

theorem partSteps_append (slot : Nat) (left right : List Piece) :
    partSteps policy node address above slot (left ++ right) =
      partSteps policy node address above slot left ++
        partSteps policy node address above (slot + slots left) right := by
  simp [partSteps, numbered_append]

/-- A node is opened, its plan is carried out, and it is closed. -/
theorem steps_eq :
    steps policy node address above =
      .opens ⟨node, address⟩ :: .event (.enter node) ::
        (partSteps policy node address above 0 (plan policy (⟨node, address⟩ :: above) node) ++
          [.closes ⟨node, address⟩, .event (.leave node)]) := by
  have inside : (numbered 0 (plan policy (⟨node, address⟩ :: above) node)).attach.flatMap
      (fun item => pieceSteps policy node address above item.1.1 item.1.2) =
        partSteps policy node address above 0 (plan policy (⟨node, address⟩ :: above) node) := by
    rw [partSteps, ← List.attach_map_subtype_val (numbered 0 (plan policy (⟨node, address⟩ :: above) node)),
      List.flatMap_map, List.attach_map_subtype_val]
  rw [steps, ← inside]
  congr 4
  funext ⟨⟨slot, piece⟩, listed⟩
  cases piece with
  | child found => simp only [pieceSteps, dite_eq_ite]
  | _ => rfl

theorem firstFault?_steps :
    firstFault? (steps policy node address above) =
      firstFault? (partSteps policy node address above 0 (plan policy (⟨node, address⟩ :: above) node)) := by
  rw [steps_eq, firstFault?_opens, firstFault?_event, firstFault?_append]
  exact Option.or_none

theorem settled_steps (atLineStart : Bool) :
    settled atLineStart (steps policy node address above) =
      .enter node :: (settled atLineStart
        (partSteps policy node address above 0 (plan policy (⟨node, address⟩ :: above) node)) ++
          [.leave node]) := by
  rw [steps_eq, settled, settled, settled_append]
  rfl

end Steps

theorem steps_induct {motive : Node → List Nat → Frames → Prop}
    (visit : ∀ node address above,
      (∀ slot, ∀ child ∈ node.children, motive child (slot :: address) (⟨node, address⟩ :: above)) →
        motive node address above)
    (node : Node) (address : List Nat) (above : Frames) : motive node address above :=
  visit node address above fun _ child _ => steps_induct visit child _ _
termination_by sizeOf node
decreasing_by exact Node.sizeOf_child_lt ‹_›

section Frames

variable {policy : Policy} {node : Node} {address : List Nat} {above : Frames}

theorem framesAfter_partSteps {pieces : List Piece}
    (children : ∀ slot found, .child found ∈ pieces → slot < node.children.length → ∀ frames,
      framesAfter frames (steps policy found (slot :: address) (⟨node, address⟩ :: above)) = some frames)
    (slot : Nat) (frames : Frames) :
    framesAfter frames (partSteps policy node address above slot pieces) = some frames := by
  induction pieces generalizing slot with
  | nil => rfl
  | cons piece rest ih =>
      have first : framesAfter frames (pieceSteps policy node address above slot piece) = some frames := by
        cases piece with
        | child found =>
            rw [pieceSteps]
            split
            next present => exact children slot found List.mem_cons_self present frames
            next => rfl
        | _ => rfl
      rw [partSteps_cons, framesAfter_append, first]
      exact ih (fun slot found asked => children slot found (List.mem_cons_of_mem _ asked)) _

theorem framesAfter_steps (frames : Frames) :
    framesAfter frames (steps policy node address above) = some frames := by
  induction node, address, above using steps_induct generalizing frames with
  | visit node address above ih =>
      have inside : framesAfter (⟨node, address⟩ :: frames)
          (partSteps policy node address above 0 (plan policy (⟨node, address⟩ :: above) node)) =
            some (⟨node, address⟩ :: frames) :=
        framesAfter_partSteps
          (fun slot found asked present => ih slot found (mem_children_of_asked asked present)) 0 _
      rw [steps_eq, framesAfter, framesAfter, framesAfter_append, inside]
      simp [framesAfter, Frame.isSame_self]

end Frames

def trace (policy : Policy) (node : Node) : List Step := steps policy node [] []

end Layout

/-- Printing asks nothing of the writer: it fails or not before any event is looked at. -/
theorem printTo_eq {σ : Type} [Writer σ] (policy : Policy) (node : Node) (writer : σ) :
    printTo policy node writer =
      match firstFault? (Layout.trace policy node) with
      | some fault => .error fault.toError
      | none => .ok (Writer.emitAll writer (settled true (Layout.trace policy node))) := by
  have balanced : framesAfter [] (Layout.steps policy node [] []) = some [] := Layout.framesAfter_steps []
  have stopped := Progress.run_fault writer true balanced
  unfold printTo Layout.trace
  cases found : firstFault? (Layout.steps policy node [] []) with
  | some fault =>
      rw [found] at stopped
      simp only [stopped]
  | none =>
      obtain ⟨written, closed⟩ := Progress.run_sound writer true balanced found
      rw [found] at stopped
      simp only [stopped, closed, written]

theorem Tape.events_emitAll (tape : Tape) (events : List Event) :
    (Writer.emitAll tape events).events = tape.events ++ events := by
  induction events generalizing tape with
  | nil => simp [Writer.emitAll]
  | cons event rest ih =>
      rw [Writer.emitAll_cons, ih]
      simp [Tape.events, Writer.emit]

theorem events_eq (policy : Policy) (node : Node) :
    events policy node =
      match firstFault? (Layout.trace policy node) with
      | some fault => .error fault.toError
      | none => .ok (settled true (Layout.trace policy node)) := by
  unfold events
  rw [printTo_eq]
  cases firstFault? (Layout.trace policy node) with
  | some fault => rfl
  | none => simp only [Except.map, Tape.events_emitAll]; rfl

theorem printTo_eq_map_events {σ : Type} [Writer σ] (policy : Policy) (node : Node) (writer : σ) :
    printTo policy node writer = (events policy node).map (Writer.emitAll writer) := by
  rw [printTo_eq, events_eq]
  cases firstFault? (Layout.trace policy node) with
  | some fault => rfl
  | none => rfl

theorem events_eq_ok {policy : Policy} {node : Node} {found : List Event}
    (printed : events policy node = .ok found) :
    firstFault? (Layout.trace policy node) = none ∧
      found = settled true (Layout.trace policy node) := by
  rw [events_eq] at printed
  cases fault : firstFault? (Layout.trace policy node) with
  | some fault' => rw [fault] at printed; exact absurd printed (by simp)
  | none =>
      rw [fault] at printed
      exact ⟨rfl, (Except.ok.inj printed).symm⟩

end CSharpLayout
