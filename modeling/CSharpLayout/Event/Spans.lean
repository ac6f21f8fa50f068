import CSharpLayout.Event.Basic

/-! Positions of nodes in the output. The span of a node reaches from the first token written inside it to
the last one; a node without tokens has an empty span where it ends. -/

namespace CSharpLayout

/-- The output of one node. `index` counts nodes in the order they are entered. -/
structure NodeSpan where
  index : Nat
  kind : NodeKind
  depth : Nat
  start : Location
  stop : Location
  deriving DecidableEq, Repr

structure OpenSpan where
  slot : Nat
  started : Bool
  deriving DecidableEq, Repr

/-- A stage that records the span of every node. The innermost open node comes first. -/
structure Tracked (σ : Type) where
  inner : σ
  spans : List NodeSpan := []
  opened : List OpenSpan := []
  lastTokenEnd : Location := {}

namespace Tracked

variable {σ : Type} [Writer σ]

def enter (tracked : Tracked σ) (node : Node) : Tracked σ :=
  let here := Writer.location tracked.inner
  let slot := tracked.spans.length
  { tracked with
    inner := Writer.emit tracked.inner (.enter node)
    spans := tracked.spans ++ [⟨slot, node.kind, tracked.opened.length, here, here⟩]
    opened := ⟨slot, false⟩ :: tracked.opened }

def leave (tracked : Tracked σ) (node : Node) : Tracked σ :=
  let inner := Writer.emit tracked.inner (.leave node)
  match tracked.opened with
  | [] => { tracked with inner }
  | ⟨slot, started⟩ :: rest =>
      let here := Writer.location inner
      let close (span : NodeSpan) : NodeSpan :=
        if started then { span with stop := tracked.lastTokenEnd }
        else { span with start := here, stop := here }
      { tracked with inner, spans := tracked.spans.modify slot close, opened := rest }

omit [Writer σ] in
/-- The open nodes from the innermost one outwards, up to one that has a token. -/
def waiting (tracked : Tracked σ) : List OpenSpan := tracked.opened.takeWhile fun opened => !opened.started

omit [Writer σ] in
def startAt (tracked : Tracked σ) (here : Location) : Tracked σ :=
  let start (spans : List NodeSpan) (opened : OpenSpan) : List NodeSpan :=
    spans.modify opened.slot fun span => { span with start := here }
  { tracked with
    spans := tracked.waiting.foldl start tracked.spans
    opened := tracked.waiting.map (fun opened => { opened with started := true }) ++
      tracked.opened.dropWhile fun opened => !opened.started }

def writeToken (tracked : Tracked σ) (event : Event) : Tracked σ :=
  let started := tracked.startAt (Writer.location tracked.inner)
  let inner := Writer.emit started.inner event
  { started with inner, lastTokenEnd := Writer.location inner }

def emit (tracked : Tracked σ) : Event → Tracked σ
  | .enter node => tracked.enter node
  | .leave node => tracked.leave node
  | event =>
      if event.isToken then tracked.writeToken event
      else { tracked with inner := Writer.emit tracked.inner event }

end Tracked

instance {σ : Type} [Writer σ] : Writer (Tracked σ) where
  emit := Tracked.emit
  location tracked := Writer.location tracked.inner

end CSharpLayout
