import CSharpLayout.Event.Basic

/-! The text of events. Indentation is written before the first token of a line, so a change of indentation
right after a line break still counts for that line. -/

namespace CSharpLayout

/-- Where text goes. A destination tells whether it took a piece of text, and may change either way. -/
class Destination (δ : Type) where
  write : δ → String → δ × Bool

instance : Destination String where
  write text piece := (text ++ piece, true)

structure Bounded where
  limit : Option Nat
  text : String := ""
  deriving DecidableEq, Repr

instance : Destination Bounded where
  write bounded piece :=
    match bounded.limit with
    | none => ({ bounded with text := bounded.text ++ piece }, true)
    | some limit =>
        if bounded.text.utf8ByteSize + piece.utf8ByteSize ≤ limit then
          ({ bounded with text := bounded.text ++ piece }, true)
        else (bounded, false)

/-- A destination with the state of its last line. After a refusal nothing more is written. -/
structure Page (δ : Type) where
  destination : δ
  indentUnit : String := "\t"
  lineEnding : String := "\n"
  indentation : Nat := 0
  atLineStart : Bool := true
  reached : Location := {}
  failed : Bool := false

namespace Page

variable {δ : Type}

def advance (location : Location) (c : Char) : Location :=
  if c = '\n' then ⟨location.line + 1, 1, location.offset + c.utf8Size⟩
  else ⟨location.line, location.column + 1, location.offset + c.utf8Size⟩

def advanceBy (location : Location) (text : String) : Location :=
  text.toList.foldl advance location

variable [Destination δ]

def put (page : Page δ) (text : String) : Page δ :=
  if page.failed || text.isEmpty then page
  else match Destination.write page.destination text with
    | (destination, true) => { page with destination, reached := advanceBy page.reached text }
    | (destination, false) => { page with destination, failed := true }

def putAll (page : Page δ) (texts : List String) : Page δ := texts.foldl put page

def startLine (page : Page δ) : Page δ :=
  if page.atLineStart then
    ({ page with atLineStart := false } : Page δ).putAll
      (List.replicate page.indentation page.indentUnit)
  else page

def write (page : Page δ) (text : String) : Page δ := page.startLine.put text

def breakLine (page : Page δ) : Page δ :=
  { page.put page.lineEnding with atLineStart := true }

def commentPieces (kind : CommentKind) (content : String) : List String :=
  match kind with
  | .singleLine => ["//", content]
  | .documentation => ["///", content]
  | .multiLine => ["/*", content, "*/"]
  | .multiLineDocumentation => ["/**", content, "*/"]
  | .inactiveCode => [content]

def writeComment (page : Page δ) (kind : CommentKind) (content : String) : Page δ :=
  let written := page.startLine.putAll (commentPieces kind content)
  if kind.endsLine then written.breakLine else written

def directivePieces (kind : DirectiveKind) (argument : Option String) : List String :=
  match argument with
  | none => ["#", kind.keyword]
  | some text => if text.isEmpty then ["#", kind.keyword] else ["#", kind.keyword, " ", text]

def writeDirective (page : Page δ) (kind : DirectiveKind) (argument : Option String) : Page δ :=
  let started := if page.atLineStart then page else page.breakLine
  (({ started with atLineStart := false } : Page δ).putAll (directivePieces kind argument)).breakLine

def writePrimitiveType (page : Page δ) (keyword : String) : Page δ :=
  if keyword = "new" then (page.write keyword).put "()" else page.write keyword

def emit (page : Page δ) : Event → Page δ
  | .enter _ => page
  | .leave _ => page
  | .identifier text _ => page.write text
  | .keyword text => page.write text
  | .token _ text => page.write text
  | .literal value raw => page.write (raw.getD value.text)
  | .primitiveType keyword => page.writePrimitiveType keyword
  | .comment kind content => page.writeComment kind content
  | .directive kind argument => page.writeDirective kind argument
  | .space => page.write " "
  | .newline => page.breakLine
  | .indent => { page with indentation := page.indentation + 1 }
  | .unindent => { page with indentation := page.indentation - 1 }

omit [Destination δ] in
def location (page : Page δ) : Location :=
  if page.atLineStart then
    { page.reached with
      column := page.reached.column + page.indentation * page.indentUnit.length
      offset := page.reached.offset + page.indentation * page.indentUnit.utf8ByteSize }
  else page.reached

omit [Destination δ] in
def finish? (page : Page δ) : Option δ := if page.failed then none else some page.destination

end Page

instance {δ : Type} [Destination δ] : Writer (Page δ) where
  emit := Page.emit
  location := Page.location

end CSharpLayout
