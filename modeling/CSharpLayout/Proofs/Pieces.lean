import CSharpLayout.Proofs.Run

/-! What an event does to a page. It offers some texts to the destination, one after the other, and then the
page is at the start of a line or not, at some indentation. The texts and the line depend on the last line
of the page only, never on what the destination answers. -/

namespace CSharpLayout

namespace Event

def indentationAfter (indentation : Nat) : Event → Nat
  | .indent => indentation + 1
  | .unindent => indentation - 1
  | _ => indentation

/-- The text of an event itself, without indentation and the end of a line, in the pieces it is written in. -/
def texts : Event → List String
  | .identifier text _ => [text]
  | .keyword text => [text]
  | .token _ text => [text]
  | .literal value raw => [raw.getD value.text]
  | .primitiveType text => if text = "new" then [text, "()"] else [text]
  | .comment kind content => Page.commentPieces kind content
  | .directive kind argument => Page.directivePieces kind argument
  | .space => [" "]
  | _ => []

def isDirective : Event → Bool
  | .directive _ _ => true
  | _ => false

def beginsText : Event → Bool
  | .space => true
  | event => event.isToken && !event.isDirective

theorem beginsText_of_token {event : Event} (token : event.isToken = true)
    (plain : event.isDirective = false) :
    event.beginsText = true := by
  cases event with
  | directive kind argument => cases plain
  | space => rfl
  | _ => exact token

def endsLine (event : Event) : Bool := event.lineStartAfter false

theorem lineStartAfter_token {event : Event} (token : event.isToken = true) (atLineStart : Bool) :
    event.lineStartAfter atLineStart = event.endsLine := by
  cases event with
  | enter node => cases token
  | leave node => cases token
  | indent => cases token
  | unindent => cases token
  | _ => rfl

end Event

namespace Page

variable {δ : Type}

def margin (page : Page δ) : List String :=
  if page.atLineStart then List.replicate page.indentation page.indentUnit else []

def pieces (page : Page δ) : Event → List String
  | .enter _ => []
  | .leave _ => []
  | .indent => []
  | .unindent => []
  | .newline => [page.lineEnding]
  | .directive kind argument =>
      (if page.atLineStart then [] else [page.lineEnding]) ++ directivePieces kind argument ++
        [page.lineEnding]
  | .comment kind content =>
      page.margin ++ commentPieces kind content ++ if kind.endsLine then [page.lineEnding] else []
  | event => page.margin ++ event.texts

theorem pieces_of_beginsText (page : Page δ) {event : Event} (begins : event.beginsText = true) :
    page.pieces event = page.margin ++ event.texts ++ if event.endsLine then [page.lineEnding] else [] := by
  cases event with
  | comment kind content => rfl
  | enter node => cases begins
  | leave node => cases begins
  | newline => cases begins
  | indent => cases begins
  | unindent => cases begins
  | directive kind argument => cases begins
  | _ => exact (List.append_nil _).symm

def fresh (destination : δ) (indentUnit lineEnding : String) : Page δ :=
  { destination, indentUnit, lineEnding }

def withLine (page : Page δ) (atLineStart : Bool) (indentation : Nat) : Page δ :=
  { page with atLineStart, indentation }

structure SameLine {δ ε : Type} (page : Page δ) (other : Page ε) : Prop where
  unit : other.indentUnit = page.indentUnit
  ending : other.lineEnding = page.lineEnding
  line : other.atLineStart = page.atLineStart
  indentation : other.indentation = page.indentation

namespace SameLine

variable {ε ζ : Type} {page : Page δ} {other : Page ε} {third : Page ζ}

theorem refl (page : Page δ) : SameLine page page := ⟨rfl, rfl, rfl, rfl⟩

theorem trans (first : SameLine page other) (second : SameLine other third) : SameLine page third where
  unit := second.unit.trans first.unit
  ending := second.ending.trans first.ending
  line := second.line.trans first.line
  indentation := second.indentation.trans first.indentation

theorem pieces (same : SameLine page other) (event : Event) : other.pieces event = page.pieces event := by
  cases event <;> simp only [Page.pieces, margin, same.unit, same.ending, same.line, same.indentation]

theorem withLine (same : SameLine page other) (atLineStart : Bool) (indentation : Nat) :
    SameLine (page.withLine atLineStart indentation) (other.withLine atLineStart indentation) :=
  ⟨same.unit, same.ending, rfl, rfl⟩

end SameLine

variable [Destination δ]

theorem put_withLine (page : Page δ) (atLineStart : Bool) (indentation : Nat) (text : String) :
    (page.withLine atLineStart indentation).put text = (page.put text).withLine atLineStart indentation := by
  cases written : Destination.write page.destination text with
  | mk destination taken => cases taken <;> simp only [put, withLine, written] <;> split <;> rfl

theorem putAll_withLine (page : Page δ) (atLineStart : Bool) (indentation : Nat) (texts : List String) :
    (page.withLine atLineStart indentation).putAll texts =
      (page.putAll texts).withLine atLineStart indentation := by
  induction texts generalizing page with
  | nil => rfl
  | cons text rest ih =>
      calc ((page.withLine atLineStart indentation).put text).putAll rest
          = ((page.put text).withLine atLineStart indentation).putAll rest := by rw [put_withLine]
        _ = ((page.put text).putAll rest).withLine atLineStart indentation := ih (page.put text)

theorem putAll_append (page : Page δ) (left right : List String) :
    page.putAll (left ++ right) = (page.putAll left).putAll right := List.foldl_append

theorem put_sameLine (page : Page δ) (text : String) : SameLine page (page.put text) := by
  unfold put
  split
  · exact .refl page
  · split <;> exact ⟨rfl, rfl, rfl, rfl⟩

theorem putAll_sameLine (page : Page δ) (texts : List String) : SameLine page (page.putAll texts) := by
  induction texts generalizing page with
  | nil => exact .refl page
  | cons text rest ih => exact (put_sameLine page text).trans (ih (page.put text))

theorem startLine_eq (page : Page δ) :
    page.startLine = (page.putAll page.margin).withLine false page.indentation := by
  cases start : page.atLineStart with
  | true =>
      have begun : page.startLine = (page.withLine false page.indentation).putAll
          (List.replicate page.indentation page.indentUnit) := by simp [startLine, withLine, start]
      have owed : page.margin = List.replicate page.indentation page.indentUnit := by simp [margin, start]
      rw [begun, owed, putAll_withLine]
  | false =>
      have nothing : page.margin = [] := by simp [margin, start]
      have same : page = page.withLine false page.indentation := by rw [withLine, ← start]
      calc page.startLine = page := by simp [startLine, start]
        _ = (page.putAll page.margin).withLine false page.indentation := by rw [nothing]; exact same

theorem breakLine_eq (page : Page δ) :
    page.breakLine = (page.putAll [page.lineEnding]).withLine true page.indentation := by
  rw [withLine, ← (put_sameLine page page.lineEnding).indentation]
  rfl

theorem startLine_putAll (page : Page δ) (texts : List String) :
    page.startLine.putAll texts = (page.putAll (page.margin ++ texts)).withLine false page.indentation := by
  rw [startLine_eq, putAll_withLine, putAll_append]

theorem breakLine_putAll (page : Page δ) (texts : List String) (atLineStart : Bool) :
    ((page.putAll texts).withLine atLineStart page.indentation).breakLine =
      (page.putAll (texts ++ [page.lineEnding])).withLine true page.indentation := by
  have ending : ((page.putAll texts).withLine atLineStart page.indentation).lineEnding = page.lineEnding :=
    (putAll_sameLine page texts).ending
  rw [breakLine_eq, ending, putAll_withLine, putAll_append]
  rfl

theorem writeComment_eq (page : Page δ) (kind : CommentKind) (content : String) :
    page.writeComment kind content =
      (page.putAll (page.pieces (.comment kind content))).withLine kind.endsLine page.indentation := by
  unfold writeComment
  rw [startLine_putAll]
  cases ends : kind.endsLine with
  | true => simpa [pieces, ends] using breakLine_putAll page (page.margin ++ commentPieces kind content) false
  | false => simp [pieces, ends]

theorem writeDirective_eq (page : Page δ) (kind : DirectiveKind) (argument : Option String) :
    page.writeDirective kind argument =
      (page.putAll (page.pieces (.directive kind argument))).withLine true page.indentation := by
  have started :
      ({ (if page.atLineStart then page else page.breakLine) with atLineStart := false } : Page δ) =
      (page.putAll (if page.atLineStart then [] else [page.lineEnding])).withLine false page.indentation := by
    cases page.atLineStart with
    | true => rfl
    | false => rw [if_neg Bool.false_ne_true, if_neg Bool.false_ne_true, breakLine_eq]; rfl
  calc page.writeDirective kind argument
      = (((page.putAll (if page.atLineStart then [] else [page.lineEnding])).withLine false
        page.indentation).putAll
          (directivePieces kind argument)).breakLine := by rw [← started]; rfl
    _ = (page.putAll (page.pieces (.directive kind argument))).withLine true page.indentation := by
        rw [putAll_withLine, ← putAll_append, breakLine_putAll]
        rfl

theorem writePrimitiveType_eq (page : Page δ) (keyword : String) :
    page.writePrimitiveType keyword =
      (page.putAll (page.pieces (.primitiveType keyword))).withLine false page.indentation := by
  have written : page.writePrimitiveType keyword =
      page.startLine.putAll (Event.primitiveType keyword).texts := by
    by_cases constructor : keyword = "new"
    · rw [writePrimitiveType, Event.texts, if_pos constructor, if_pos constructor]
      rfl
    · rw [writePrimitiveType, Event.texts, if_neg constructor, if_neg constructor]
      rfl
  rw [written, startLine_putAll]
  rfl

/-- All that an event does to a page. -/
theorem emit_eq (page : Page δ) (event : Event) :
    page.emit event = (page.putAll (page.pieces event)).withLine (event.lineStartAfter page.atLineStart)
      (event.indentationAfter page.indentation) := by
  cases event with
  | enter node => rfl
  | leave node => rfl
  | indent => rfl
  | unindent => rfl
  | newline => exact breakLine_eq page
  | comment kind content => exact writeComment_eq page kind content
  | directive kind argument => exact writeDirective_eq page kind argument
  | primitiveType keyword => exact writePrimitiveType_eq page keyword
  | identifier text tokenClass => exact startLine_putAll page [text]
  | keyword text => exact startLine_putAll page [text]
  | token role text => exact startLine_putAll page [text]
  | literal value raw => exact startLine_putAll page [raw.getD value.text]
  | space => exact startLine_putAll page [" "]

theorem emit_atLineStart (page : Page δ) (event : Event) :
    (page.emit event).atLineStart = event.lineStartAfter page.atLineStart := by
  rw [emit_eq]
  rfl

section Runs

omit [Destination δ] in
def script (page : Page δ) : List Event → List String
  | [] => []
  | event :: rest =>
      page.pieces event ++ (page.withLine (event.lineStartAfter page.atLineStart)
        (event.indentationAfter page.indentation)).script rest

omit [Destination δ] in
/-- What is offered does not depend on whom it is offered to. -/
theorem SameLine.script {ε : Type} {page : Page δ} {other : Page ε} (same : SameLine page other)
    (events : List Event) : other.script events = page.script events := by
  induction events generalizing page other with
  | nil => rfl
  | cons event rest ih =>
      rw [Page.script, Page.script, same.pieces, same.line, same.indentation, ih (same.withLine _ _)]

theorem emitAll_eq (page : Page δ) (events : List Event) :
    Writer.emitAll page events =
      (page.putAll (page.script events)).withLine (events.foldl Event.lineStartAfter page.atLineStart)
        (events.foldl Event.indentationAfter page.indentation) := by
  induction events generalizing page with
  | nil => rfl
  | cons event rest ih =>
      have same := (putAll_sameLine page (page.pieces event)).withLine (event.lineStartAfter page.atLineStart)
        (event.indentationAfter page.indentation)
      calc Writer.emitAll (page.emit event) rest
          = ((page.emit event).putAll ((page.emit event).script rest)).withLine
              (rest.foldl Event.lineStartAfter (page.emit event).atLineStart)
              (rest.foldl Event.indentationAfter (page.emit event).indentation) := ih (page.emit event)
        _ = _ := by rw [emit_eq, same.script, putAll_withLine, ← putAll_append]; rfl

end Runs

end Page

end CSharpLayout
