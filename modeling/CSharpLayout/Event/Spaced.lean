import CSharpLayout.Event.Basic

/-! Spaces the grammar needs. Two words, or two tokens that would fuse into another token, are kept apart
by a space when nothing else stands between them. -/

namespace CSharpLayout

/-- What was written last, as far as the next token can fuse with it. -/
inductive LastWritten where
  | whitespace
  | other
  | word
  | plus
  | minus
  | ampersand
  | questionMark
  | division
  deriving DecidableEq, Repr

namespace LastWritten

def fusesWith (last : LastWritten) (text : String) : Bool :=
  match text.toList.head? with
  | some '+' => last = .plus
  | some '-' => last = .minus
  | some '&' => last = .ampersand
  | some '?' => last = .questionMark
  | some '*' => last = .division
  | some '/' => last = .division
  | _ => false

def ofToken (text : String) : LastWritten :=
  match text with
  | "+" => .plus
  | "-" => .minus
  | "&" => .ampersand
  | "?" => .questionMark
  | "/" => .division
  | _ => .other

def startsNegative (value : Literal) (raw : Option String) : Bool :=
  match raw with
  | some text => text.toList.head? == some '-'
  | none => value.isNegative

def needsSpace (last : LastWritten) : Event → Bool
  | .identifier _ _ => last = .word
  | .keyword _ => last = .word
  | .token _ text => last.fusesWith text
  | .literal value raw => last = .word || (last = .minus && startsNegative value raw)
  | .primitiveType _ => last = .word
  | .comment _ _ => last = .division
  | _ => false

def after (last : LastWritten) : Event → LastWritten
  | .identifier _ _ => .word
  | .keyword _ => .word
  | .token _ text => ofToken text
  | .literal value _ => if value.isQuoted then .other else .word
  | .primitiveType keyword => if keyword = "new" then .other else .word
  | .comment _ _ => .whitespace
  | .directive _ _ => .whitespace
  | .space => .whitespace
  | .newline => .whitespace
  | _ => last

end LastWritten

structure Spaced (σ : Type) where
  inner : σ
  last : LastWritten := .whitespace

namespace Spaced

variable {σ : Type} [Writer σ]

def emit (spaced : Spaced σ) (event : Event) : Spaced σ :=
  let separated :=
    if spaced.last.needsSpace event then Writer.emit spaced.inner .space else spaced.inner
  ⟨Writer.emit separated event, spaced.last.after event⟩

end Spaced

instance {σ : Type} [Writer σ] : Writer (Spaced σ) where
  emit := Spaced.emit
  location spaced := Writer.location spaced.inner

end CSharpLayout
