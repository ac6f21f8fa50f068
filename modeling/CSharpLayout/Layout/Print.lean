import CSharpLayout.Event.Page
import CSharpLayout.Event.Spaced
import CSharpLayout.Event.Spans
import CSharpLayout.Layout.Trace

/-! Printing: a node into any writer, a node or a tree as text, and a tree as text with the span of every
node. A session prints several nodes into one writer. -/

namespace CSharpLayout

def Error.refused : Error := .output "the output destination rejected a write"

def Page.ofPolicy {δ : Type} (policy : Policy) (destination : δ) : Page δ where
  destination
  indentUnit := policy.indentation.unit
  lineEnding := policy.lineEnding.text

def Page.finish {δ : Type} (page : Page δ) : Except Error δ :=
  match page.finish? with
  | none => .error .refused
  | some destination => .ok destination

def printTo {σ : Type} [Writer σ] (policy : Policy) (node : Node) (writer : σ) : Except Error σ :=
  let finished := ({ writer } : Progress σ).run (Layout.steps policy node [] [])
  match finished.fault, finished.frames with
  | some fault, _ => .error fault.toError
  | none, [] => .ok finished.writer
  | none, frames => .error (.unbalancedNodes (toString frames.length ++ " node(s) left open"))

def events (policy : Policy) (node : Node) : Except Error (List Event) :=
  (printTo policy node ({} : Tape)).map Tape.events

def spacedEvents (policy : Policy) (node : Node) : Except Error (List Event) :=
  (printTo policy node (⟨{}, .whitespace⟩ : Spaced Tape)).map fun spaced => spaced.inner.events

def printNode (policy : Policy) (node : Node) : Except Error String := do
  let writer : Spaced (Page String) := { inner := .ofPolicy policy "" }
  let printed ← printTo policy node writer
  printed.inner.finish

def print (policy : Policy) (tree : SyntaxTree) : Except Error String :=
  printNode policy (.syntaxTree tree)

def printWithMap (policy : Policy) (tree : SyntaxTree) : Except Error (String × List NodeSpan) := do
  let writer : Spaced (Tracked (Page String)) := { inner := { inner := .ofPolicy policy "" } }
  let printed ← printTo policy (.syntaxTree tree) writer
  let text ← printed.inner.inner.finish
  pure (text, printed.inner.spans)

/-- Several nodes printed into one writer. A failed visit leaves the nodes open that were open when it
failed, and the next visit has to be one of the innermost open node's children. -/
structure Session (σ : Type) where
  writer : σ
  atLineStart : Bool := true
  frames : Frames := []

namespace Session

variable {σ : Type}

def admits (session : Session σ) (address : List Nat) : Bool :=
  match session.frames with
  | [] => true
  | ⟨.pattern _, _⟩ :: _ => true
  | top :: _ => address ≠ [] && address.tail = top.address

variable [Writer σ]

def visit (session : Session σ) (policy : Policy) (node : Node) (address : List Nat) :
    Session σ × Option Error :=
  if session.admits address then
    let start : Progress σ :=
      { writer := session.writer, atLineStart := session.atLineStart, frames := session.frames }
    let finished := start.run (Layout.steps policy node address session.frames)
    ({ writer := finished.writer, atLineStart := finished.atLineStart, frames := finished.frames },
      finished.fault.map Fault.toError)
  else (session, some (Fault.toError ⟨session.frames, .stray node.kind⟩))

end Session

end CSharpLayout
