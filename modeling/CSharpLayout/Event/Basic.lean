import CSharpLayout.Node.Basic

/-! What a printer says to a writer, one event at a time. -/

namespace CSharpLayout

/-- A place in the output: line and column from one, and the number of bytes before it. -/
structure Location where
  line : Nat := 1
  column : Nat := 1
  offset : Nat := 0
  deriving DecidableEq, Repr

inductive Event where
  | enter (node : Node)
  | leave (node : Node)
  | identifier (text : String) (tokenClass : TokenClass)
  | keyword (text : String)
  | token (role : TokenRole) (text : String)
  | literal (value : Literal) (raw : Option String)
  | primitiveType (keyword : String)
  | comment (kind : CommentKind) (content : String)
  | directive (kind : DirectiveKind) (argument : Option String)
  | space
  | newline
  | indent
  | unindent

namespace Event

def isToken : Event → Bool
  | .identifier _ _ => true
  | .keyword _ => true
  | .token _ _ => true
  | .literal _ _ => true
  | .primitiveType _ => true
  | .comment _ _ => true
  | .directive _ _ => true
  | _ => false

def isLayout : Event → Bool
  | .space => true
  | .newline => true
  | .indent => true
  | .unindent => true
  | _ => false

def lineStartAfter (atLineStart : Bool) : Event → Bool
  | .enter _ => atLineStart
  | .leave _ => atLineStart
  | .indent => atLineStart
  | .unindent => atLineStart
  | .newline => true
  | .directive _ _ => true
  | .comment kind _ => kind.endsLine
  | _ => false

end Event

/-- A stage that takes events and knows where the next token will start. -/
class Writer (σ : Type) where
  emit : σ → Event → σ
  location : σ → Location

def Writer.emitAll {σ : Type} [Writer σ] (writer : σ) (events : List Event) : σ :=
  events.foldl Writer.emit writer

structure Tape where
  reversed : List Event := []

def Tape.events (tape : Tape) : List Event := tape.reversed.reverse

instance : Writer Tape where
  emit tape event := ⟨event :: tape.reversed⟩
  location _ := {}

end CSharpLayout
