import CSharpLayout.Layout.Slots
import CSharpLayout.Node.Walk

/-! The steps of printing a node and everything below it. The children of a node take its slots in the order
of its plan, so a node that is asked for belongs to its parent if there is a slot for it. -/

namespace CSharpLayout

/-- A step of printing, in which line starts are not decided yet. -/
inductive Step where
  | opens (frame : Frame)
  | closes (frame : Frame)
  | event (event : Event)
  | gap
  | freshLine
  | fault (fault : Fault)

def Piece.isChild : Piece → Bool
  | .child _ => true
  | .hidden _ => true
  | _ => false

namespace Layout

def numbered (slot : Nat) : List Piece → List (Nat × Piece)
  | [] => []
  | piece :: rest => (slot, piece) :: numbered (if piece.isChild then slot + 1 else slot) rest

theorem mem_of_numbered {slot start : Nat} {piece : Piece} {pieces : List Piece}
    (listed : (slot, piece) ∈ numbered start pieces) : piece ∈ pieces := by
  induction pieces generalizing start with
  | nil => cases listed
  | cons first rest ih =>
      rcases List.mem_cons.mp listed with same | later
      · cases same
        exact List.mem_cons_self
      · exact List.mem_cons_of_mem _ (ih later)

/-- The steps of a node at an address, inside the nodes that are open above it. -/
def steps (policy : Policy) (node : Node) (address : List Nat) (above : Frames) : List Step :=
  let frame : Frame := ⟨node, address⟩
  let frames : Frames := frame :: above
  let inner := (numbered 0 (plan policy frames node)).attach.flatMap fun ⟨(slot, piece), listed⟩ =>
    match piece, listed with
    | .event event, _ => [.event event]
    | .gap, _ => [.gap]
    | .freshLine, _ => [.freshLine]
    | .child found, listed =>
        if present : slot < node.children.length then
          have _ : found ∈ node.children := mem_children_of_asked (mem_of_numbered listed) present
          steps policy found (slot :: address) frames
        else [.fault ⟨frames, .stray found.kind⟩]
    | .hidden _, _ => []
    | .problem problem, _ => [.fault ⟨frames, .malformed problem⟩]
  .opens frame :: .event (.enter node) :: (inner ++ [.closes frame, .event (.leave node)])
termination_by sizeOf node
decreasing_by exact Node.sizeOf_child_lt ‹_›

end Layout

structure Progress (σ : Type) where
  writer : σ
  atLineStart : Bool := true
  frames : Frames := []
  fault : Option Fault := none

namespace Progress

variable {σ : Type} [Writer σ]

def emit (progress : Progress σ) (event : Event) : Progress σ :=
  { progress with
    writer := Writer.emit progress.writer event
    atLineStart := event.lineStartAfter progress.atLineStart }

omit [Writer σ] in
def close (progress : Progress σ) (frame : Frame) : Progress σ :=
  match progress.frames with
  | [] => { progress with fault := some ⟨[], .unopened frame.node.kind⟩ }
  | top :: outer =>
      if top.isSame frame then { progress with frames := outer }
      else
        { progress with
          frames := outer
          fault := some ⟨outer, .crossed frame.node.kind top.node.kind⟩ }

def step (progress : Progress σ) (step : Step) : Progress σ :=
  if progress.fault.isSome then progress
  else match step with
    | .opens frame => { progress with frames := frame :: progress.frames }
    | .closes frame => progress.close frame
    | .event event => progress.emit event
    | .gap => if progress.atLineStart then progress else progress.emit .space
    | .freshLine => if progress.atLineStart then progress else progress.emit .newline
    | .fault found => { progress with fault := some found }

def run (progress : Progress σ) (steps : List Step) : Progress σ :=
  steps.foldl Progress.step progress

end Progress

end CSharpLayout
