import CSharpLayout.Proofs.Pieces

/-! The text of a run as strokes: the tokens that write something, each with whether white space stands
before it. A page writes exactly the strokes, in order, and puts nothing but white space between them. -/

namespace CSharpLayout

namespace Text

def isSeparator (c : Char) : Bool := c = ' ' || c = '\t' || c = '\r' || c = '\n'

def isLineEnd (c : Char) : Bool := c = '\r' || c = '\n'

def Separating (text : List Char) : Prop := ∀ c ∈ text, isSeparator c = true

theorem separating_nil : Separating [] := by
  intro c member
  cases member

theorem separating_append {left right : List Char} (first : Separating left)
    (second : Separating right) : Separating (left ++ right) := by
  intro c member
  rcases List.mem_append.mp member with inLeft | inRight
  · exact first c inLeft
  · exact second c inRight

def solid (text : List Char) : List Char := text.filter fun c => !isSeparator c

theorem solid_nil : solid [] = [] := rfl

theorem solid_append (left right : List Char) : solid (left ++ right) = solid left ++ solid right :=
  List.filter_append ..

theorem solid_of_separating {text : List Char} (separating : Separating text) : solid text = [] := by
  refine List.filter_eq_nil_iff.mpr fun c member => ?_
  simp [separating c member]

end Text

namespace Event

def spelling : Event → List Char
  | .identifier text _ => text.toList
  | .keyword text => text.toList
  | .token _ text => text.toList
  | .literal value raw => (raw.getD value.text).toList
  | .primitiveType text => text.toList ++ if text = "new" then ['(', ')'] else []
  | .comment kind content => (Page.commentPieces kind content).flatMap String.toList
  | .directive kind argument => (Page.directivePieces kind argument).flatMap String.toList
  | _ => []

def isBlank : Event → Bool
  | .space => true
  | .newline => true
  | _ => false

theorem spelling_eq {event : Event} (token : event.isToken = true) :
    event.spelling = event.texts.flatMap String.toList := by
  cases event with
  | primitiveType text => by_cases constructor : text = "new" <;> simp [spelling, texts, constructor]
  | comment kind content => rfl
  | directive kind argument => rfl
  | enter node => cases token
  | leave node => cases token
  | space => cases token
  | newline => cases token
  | indent => cases token
  | unindent => cases token
  | _ => simp [spelling, texts]

end Event

/-- A token that writes something, whether white space stands before it, and whether it ends its line. -/
structure Stroke where
  apart : Bool
  text : List Char
  endsLine : Bool
  deriving DecidableEq, Repr

def strokes (apart : Bool) (bond : LastWritten) : List Event → List Stroke
  | [] => []
  | event :: rest =>
      if event.isToken then
        let separated := apart || (bond.needsSpace event || event.isDirective)
        if event.spelling.isEmpty then strokes (separated || event.endsLine) (bond.after event) rest
        else ⟨separated, event.spelling, event.endsLine⟩ :: strokes event.endsLine (bond.after event) rest
      else strokes (apart || event.isBlank) bond rest

inductive Lead where
  | free
  | close
  | line
  deriving DecidableEq, Repr

def Lead.Admits : Lead → List Char → Prop
  | .free, _ => True
  | .close, space => space ≠ []
  | .line, space => ∃ c rest, space = c :: rest ∧ Text.isLineEnd c = true

def Stroke.lead (stroke : Stroke) : Lead := if stroke.endsLine then .line else .close

/-- A text that consists of strokes, with white space before a stroke exactly if the stroke says so. -/
inductive Woven : Lead → List Stroke → List Char → Prop
  | done {lead : Lead} {space : List Char} : Text.Separating space →
      (lead = .line → Lead.line.Admits space) → Woven lead [] space
  | close {text rest : List Char} {endsLine : Bool} {later : List Stroke} :
      Woven (Stroke.lead ⟨false, text, endsLine⟩) later rest →
      Woven .close (⟨false, text, endsLine⟩ :: later) (text ++ rest)
  | apart {lead : Lead} {space text rest : List Char} {endsLine : Bool} {later : List Stroke} :
      Text.Separating space → lead.Admits space → Woven (Stroke.lead ⟨true, text, endsLine⟩) later rest →
      Woven lead (⟨true, text, endsLine⟩ :: later) (space ++ text ++ rest)

theorem Lead.Admits.append {lead : Lead} {space : List Char} (admits : lead.Admits space)
    (more : List Char) : lead.Admits (space ++ more) := by
  cases lead with
  | free => trivial
  | close => exact fun nothing => admits (List.append_eq_nil_iff.mp nothing).1
  | line =>
      obtain ⟨c, rest, rfl, ends⟩ := admits
      exact ⟨c, rest ++ more, rfl, ends⟩

theorem Lead.Admits.ne_nil {space : List Char} (admits : Lead.line.Admits space) : space ≠ [] := by
  obtain ⟨c, rest, rfl, _⟩ := admits
  exact List.cons_ne_nil c rest

namespace Woven

theorem prepend {lead : Lead} {space text : List Char} {found : List Stroke}
    (separating : Text.Separating space) (admits : lead.Admits space)
    (woven : Woven .free found text) : Woven lead found (space ++ text) := by
  cases woven with
  | done rest _ =>
      refine .done (Text.separating_append separating rest) fun line => ?_
      subst line
      exact admits.append _
  | apart first _ later =>
      rw [← List.append_assoc, ← List.append_assoc]
      exact .apart (Text.separating_append separating first) (admits.append _) later

theorem solid_eq {lead : Lead} {found : List Stroke} {text : List Char} (woven : Woven lead found text) :
    Text.solid text = found.flatMap fun stroke => Text.solid stroke.text := by
  induction woven with
  | done rest _ => exact Text.solid_of_separating rest
  | close _ ih => rw [Text.solid_append, ih]; rfl
  | apart separating _ _ ih =>
      rw [Text.solid_append, Text.solid_append, Text.solid_of_separating separating, ih]
      rfl

end Woven

theorem Event.spelling_of_not_token {event : Event} (silent : event.isToken = false) :
    event.spelling = [] := by
  cases event with
  | enter node => rfl
  | leave node => rfl
  | space => rfl
  | newline => rfl
  | indent => rfl
  | unindent => rfl
  | _ => exact absurd silent (by simp [Event.isToken])

theorem Event.silent_of_layout {event : Event} (layout : event.isLayout = true) : event.isToken = false := by
  cases event with
  | space => rfl
  | newline => rfl
  | indent => rfl
  | unindent => rfl
  | _ => exact absurd layout (by simp [Event.isLayout])

theorem strokes_text (apart : Bool) (bond : LastWritten) (events : List Event) :
    (strokes apart bond events).flatMap (fun stroke => Text.solid stroke.text) =
      events.flatMap fun event => Text.solid event.spelling := by
  induction events generalizing apart bond with
  | nil => rfl
  | cons event rest ih =>
      simp only [strokes, List.flatMap_cons]
      split
      · split
        next nothing => rw [ih, List.isEmpty_iff.mp nothing]; rfl
        next => simp only [List.flatMap_cons, ih]
      next silent =>
        rw [ih, Event.spelling_of_not_token (by simpa using silent)]
        rfl

namespace Page

structure Sound (page : Page String) : Prop where
  accepted : page.failed = false
  unit : Text.Separating page.indentUnit.toList
  ending : Text.Separating page.lineEnding.toList
  breaks : Lead.line.Admits page.lineEnding.toList

structure Grown (page : Page String) (added : List Char) (later : Page String) : Prop where
  text : later.destination.toList = page.destination.toList ++ added
  accepted : later.failed = page.failed
  unit : later.indentUnit = page.indentUnit
  ending : later.lineEnding = page.lineEnding

theorem Grown.sound {page later : Page String} {added : List Char} (grown : Grown page added later)
    (sound : page.Sound) : later.Sound where
  accepted := grown.accepted.trans sound.accepted
  unit := grown.unit ▸ sound.unit
  ending := grown.ending ▸ sound.ending
  breaks := grown.ending ▸ sound.breaks

theorem Grown.trans {page middle later : Page String} {added more : List Char}
    (first : Grown page added middle) (second : Grown middle more later) :
    Grown page (added ++ more) later where
  text := by rw [second.text, first.text, List.append_assoc]
  accepted := second.accepted.trans first.accepted
  unit := second.unit.trans first.unit
  ending := second.ending.trans first.ending

theorem Grown.same {page later : Page String} (text : later.destination = page.destination)
    (accepted : later.failed = page.failed) (unit : later.indentUnit = page.indentUnit)
    (ending : later.lineEnding = page.lineEnding) : Grown page [] later where
  text := by rw [text, List.append_nil]
  accepted := accepted
  unit := unit
  ending := ending

theorem put_grown {page : Page String} (accepted : page.failed = false) (text : String) :
    Grown page text.toList (page.put text) ∧ (page.put text).atLineStart = page.atLineStart := by
  by_cases empty : text.isEmpty = true
  · have nothing : text = "" := String.isEmpty_iff.mp empty
    subst nothing
    have same : page.put "" = page := if_pos (by simp)
    rw [same]
    exact ⟨.same rfl rfl rfl rfl, rfl⟩
  · have written : page.put text =
        { page with
          destination := page.destination ++ text
          reached := advanceBy page.reached text } := by
      simp [put, accepted, empty, Destination.write]
    rw [written]
    exact ⟨⟨String.toList_append, rfl, rfl, rfl⟩, rfl⟩

theorem putAll_grown {page : Page String} (accepted : page.failed = false) (texts : List String) :
    Grown page (texts.flatMap String.toList) (page.putAll texts) ∧
      (page.putAll texts).atLineStart = page.atLineStart := by
  induction texts generalizing page with
  | nil => exact ⟨.same rfl rfl rfl rfl, rfl⟩
  | cons text rest ih =>
      obtain ⟨first, stays⟩ := put_grown accepted text
      obtain ⟨others, still⟩ := ih (first.accepted.trans accepted)
      exact ⟨first.trans others, still.trans stays⟩

structure Stamped (page : Page String) (space : List Char) (event : Event) (later : Page String) : Prop where
  separating : Text.Separating space
  grown : Grown page
    (space ++ event.spelling ++ if event.endsLine then page.lineEnding.toList else []) later
  lineStart : later.atLineStart = event.endsLine

theorem emit_grown {page : Page String} (accepted : page.failed = false) (event : Event) :
    Grown page ((page.pieces event).flatMap String.toList) (page.emit event) := by
  obtain ⟨⟨text, still, unit, ending⟩, _⟩ := putAll_grown accepted (page.pieces event)
  rw [emit_eq]
  exact ⟨text, still, unit, ending⟩

theorem separating_margin {page : Page String} (sound : page.Sound) :
    Text.Separating (page.margin.flatMap String.toList) := by
  intro c member
  obtain ⟨text, among, inText⟩ := List.mem_flatMap.mp member
  unfold margin at among
  split at among
  · rw [List.eq_of_mem_replicate among] at inText
    exact sound.unit c inText
  · exact absurd among List.not_mem_nil

theorem margin_of_open {page : Page String} (opened : page.atLineStart = false) : page.margin = [] := by
  simp [margin, opened]

theorem directive_stamped {page : Page String} (sound : page.Sound) (kind : DirectiveKind)
    (argument : Option String) :
    ∃ space, Stamped page space (.directive kind argument) (page.emit (.directive kind argument)) ∧
      (page.atLineStart = false → space ≠ []) := by
  have grown := emit_grown sound.accepted (.directive kind argument)
  rw [pieces, List.flatMap_append, List.flatMap_append, List.flatMap_singleton] at grown
  refine ⟨_, ⟨?_, grown, emit_atLineStart page _⟩, ?_⟩
  · cases page.atLineStart with
    | true => exact Text.separating_nil
    | false => simpa using sound.ending
  · intro opened
    simpa [opened] using sound.breaks.ne_nil

/-- Every token is written as it is spelled, with nothing but white space before it and the end of a line
after it. -/
theorem token_stamped {page : Page String} (sound : page.Sound) {event : Event}
    (token : event.isToken = true) :
    ∃ space, Stamped page space event (page.emit event) ∧
      (page.atLineStart = false → (space = [] ↔ event.isDirective = false)) := by
  cases directive : event.isDirective with
  | true =>
      cases event with
      | directive kind argument =>
          obtain ⟨space, stamped, some⟩ := directive_stamped sound kind argument
          exact ⟨space, stamped, fun opened => iff_of_false (some opened) Bool.noConfusion⟩
      | _ => cases directive
  | false =>
      have begins := Event.beginsText_of_token token directive
      have grown := emit_grown sound.accepted event
      rw [pieces_of_beginsText page begins, List.flatMap_append, List.flatMap_append,
        ← Event.spelling_eq token] at grown
      refine ⟨page.margin.flatMap String.toList, ⟨separating_margin sound, ?_, ?_⟩, fun opened => ?_⟩
      · cases ends : event.endsLine <;> simpa [ends] using grown
      · rw [emit_atLineStart, Event.lineStartAfter_token token]
      · simp [margin_of_open opened]

end Page

namespace Spaced

theorem emit_inner_of_calm {σ : Type} [Writer σ] {last : LastWritten} {event : Event}
    (calm : last.needsSpace event = false) (inner : σ) :
    Writer.emit (⟨inner, last⟩ : Spaced σ) event = ⟨Writer.emit inner event, last.after event⟩ := by
  simp [Writer.emit, emit, calm]

theorem emit_inner_of_needed {σ : Type} [Writer σ] {last : LastWritten} {event : Event}
    (needed : last.needsSpace event = true) (inner : σ) :
    Writer.emit (⟨inner, last⟩ : Spaced σ) event =
      ⟨Writer.emit (Writer.emit inner .space) event, last.after event⟩ := by
  simp [Writer.emit, emit, needed]

end Spaced

theorem LastWritten.after_token {event : Event} (token : event.isToken = true) (last bond : LastWritten) :
    last.after event = bond.after event := by
  cases event with
  | enter node => exact absurd token (by simp [Event.isToken])
  | leave node => exact absurd token (by simp [Event.isToken])
  | indent => exact absurd token (by simp [Event.isToken])
  | unindent => exact absurd token (by simp [Event.isToken])
  | _ => rfl

theorem LastWritten.needsSpace_layout {event : Event} (silent : event.isToken = false) (last : LastWritten) :
    last.needsSpace event = false := by
  cases event with
  | enter node => rfl
  | leave node => rfl
  | space => rfl
  | newline => rfl
  | indent => rfl
  | unindent => rfl
  | _ => exact absurd silent (by simp [Event.isToken])

def withSpaces (last : LastWritten) : List Event → List Event
  | [] => []
  | event :: rest =>
      if last.needsSpace event then .space :: event :: withSpaces (last.after event) rest
      else event :: withSpaces (last.after event) rest

theorem withSpaces_silent {event : Event} (silent : event.isToken = false) (last : LastWritten)
    (rest : List Event) :
    withSpaces last (event :: rest) = event :: withSpaces (last.after event) rest := by
  rw [withSpaces, LastWritten.needsSpace_layout silent]
  rfl

theorem withSpaces_append (last : LastWritten) (left right : List Event) :
    withSpaces last (left ++ right) = withSpaces last left ++
      withSpaces (left.foldl LastWritten.after last) right := by
  induction left generalizing last with
  | nil => rfl
  | cons event rest ih =>
      rw [List.cons_append, withSpaces, withSpaces, ih]
      split <;> rfl

theorem Spaced.emitAll_inner {σ : Type} [Writer σ] (events : List Event) (inner : σ) (last : LastWritten) :
    (Writer.emitAll (⟨inner, last⟩ : Spaced σ) events).inner =
    Writer.emitAll inner (withSpaces last events) := by
  induction events generalizing inner last with
  | nil => rfl
  | cons event rest ih =>
      rw [Writer.emitAll_cons, withSpaces]
      cases needed : last.needsSpace event with
      | false => rw [Spaced.emit_inner_of_calm needed, ih]; rfl
      | true => rw [Spaced.emit_inner_of_needed needed, ih]; rfl

theorem spacedEvents_eq (policy : Policy) (node : Node) :
    spacedEvents policy node = (events policy node).map (withSpaces .whitespace) := by
  rw [spacedEvents, printTo_eq_map_events]
  cases events policy node with
  | error error => rfl
  | ok found =>
      simp only [Except.map, Spaced.emitAll_inner, Tape.events_emitAll]
      rfl

theorem LastWritten.after_of_calm {event : Event} (silent : event.isToken = false)
    (calm : event.isBlank = false) (last : LastWritten) : last.after event = last := by
  cases event with
  | enter node => rfl
  | leave node => rfl
  | indent => rfl
  | unindent => rfl
  | space => exact absurd calm (by simp [Event.isBlank])
  | newline => exact absurd calm (by simp [Event.isBlank])
  | _ => exact absurd silent (by simp [Event.isToken])

theorem LastWritten.directive_of_needsSpace {event : Event} {last : LastWritten}
    (needed : last.needsSpace event = true) : event.isDirective = false := by
  cases event with
  | directive kind argument => exact absurd needed (by simp [LastWritten.needsSpace])
  | _ => rfl

namespace Page

structure Tracks (page : Page String) (last : LastWritten) (apart : Bool) (bond : LastWritten) : Prop where
  sound : page.Sound
  lineStart : page.atLineStart = true → apart = true
  last : apart = false → last = bond

theorem Tracks.within {page : Page String} {last bond : LastWritten} {apart : Bool}
    (tracks : page.Tracks last apart bond) (close : apart = false) : page.atLineStart = false := by
  cases start : page.atLineStart with
  | false => rfl
  | true => exact absurd (tracks.lineStart start) (by simp [close])

theorem space_grown {page : Page String} (sound : page.Sound) :
    ∃ space, Text.Separating space ∧ space ≠ [] ∧ Grown page space (page.emit .space) ∧
      (page.emit .space).atLineStart = false := by
  have grown := emit_grown sound.accepted .space
  rw [pieces_of_beginsText page rfl, List.append_assoc, List.flatMap_append] at grown
  refine ⟨_, ?_, ?_, grown, emit_atLineStart page .space⟩
  · refine Text.separating_append (separating_margin sound) fun c member => ?_
    have blank : c = ' ' := by simpa [Event.texts, Event.endsLine, Event.lineStartAfter] using member
    simp [blank, Text.isSeparator]
  · simp [Event.texts]

theorem spaced_stamped {page : Page String} {last bond : LastWritten} {apart : Bool}
    (tracks : page.Tracks last apart bond) {event : Event} (token : event.isToken = true) :
    ∃ space later, Stamped page space event later ∧
      Writer.emit (⟨page, last⟩ : Spaced (Page String)) event = ⟨later, last.after event⟩ ∧
      (apart = false → (space = [] ↔ (bond.needsSpace event || event.isDirective) = false)) := by
  cases needed : last.needsSpace event with
  | false =>
      obtain ⟨space, stamped, iff⟩ := token_stamped tracks.sound token
      refine ⟨space, _, stamped, Spaced.emit_inner_of_calm needed page, fun close => ?_⟩
      rw [← tracks.last close, needed, Bool.false_or]
      exact iff (tracks.within close)
  | true =>
      obtain ⟨gap, separating, some, grown, within⟩ := space_grown tracks.sound
      obtain ⟨space, stamped, iff⟩ := token_stamped (grown.sound tracks.sound) token
      have nothing : space = [] := (iff within).mpr (LastWritten.directive_of_needsSpace needed)
      subst nothing
      refine ⟨gap, _, ⟨separating, ?_, stamped.lineStart⟩, Spaced.emit_inner_of_needed needed page,
        fun close => ?_⟩
      · have whole := grown.trans stamped.grown
        rw [grown.ending, List.nil_append, ← List.append_assoc] at whole
        exact whole
      · rw [← tracks.last close, needed]
        simp [some]

/-- Layout adds white space at most, and some exactly if the event is blank. -/
theorem layout_grown {page : Page String} (sound : page.Sound) {event : Event}
    (silent : event.isToken = false) :
    ∃ space, Text.Separating space ∧ (space = [] ↔ event.isBlank = false) ∧
      Grown page space (page.emit event) ∧
      ((page.emit event).atLineStart = true → page.atLineStart = true ∨ event.isBlank = true) := by
  cases event with
  | enter node => exact ⟨[], Text.separating_nil, by simp [Event.isBlank], .same rfl rfl rfl rfl, .inl⟩
  | leave node => exact ⟨[], Text.separating_nil, by simp [Event.isBlank], .same rfl rfl rfl rfl, .inl⟩
  | indent => exact ⟨[], Text.separating_nil, by simp [Event.isBlank], .same rfl rfl rfl rfl, .inl⟩
  | unindent => exact ⟨[], Text.separating_nil, by simp [Event.isBlank], .same rfl rfl rfl rfl, .inl⟩
  | newline =>
      have grown := emit_grown sound.accepted .newline
      rw [pieces, List.flatMap_singleton] at grown
      exact ⟨_, sound.ending, by simpa [Event.isBlank] using sound.breaks.ne_nil, grown, fun _ => .inr rfl⟩
  | space =>
      obtain ⟨space, separating, some, grown, within⟩ := space_grown sound
      exact ⟨space, separating, by simpa [Event.isBlank] using some, grown, fun _ => .inr rfl⟩
  | _ => exact absurd silent (by simp [Event.isToken])

end Page

def Lead.ofApart (apart : Bool) : Lead := if apart then .free else .close

/-- White space in front, where `more` tells whether there is some. -/
theorem Woven.widen {apart more : Bool} {space text : List Char} {found : List Stroke}
    (separating : Text.Separating space) (present : apart = false → (space = [] ↔ more = false))
    (woven : Woven (Lead.ofApart (apart || more)) found text) :
    Woven (Lead.ofApart apart) found (space ++ text) := by
  cases apart with
  | true => exact woven.prepend separating trivial
  | false =>
      cases more with
      | true => exact woven.prepend separating (fun nothing => by simpa using (present rfl).mp nothing)
      | false =>
          rw [(present rfl).mpr rfl, List.nil_append]
          exact woven

theorem Woven.after_stroke {page : Page String} (sound : page.Sound) {apart endsLine : Bool}
    {text rest : List Char} {later : List Stroke} (woven : Woven (Lead.ofApart endsLine) later rest) :
    Woven (Stroke.lead ⟨apart, text, endsLine⟩) later
      ((if endsLine then page.lineEnding.toList else []) ++ rest) := by
  cases endsLine with
  | false => exact woven
  | true => exact woven.prepend sound.ending sound.breaks

/-- A stroke in front, where `more` tells whether white space stands before it on top of what `apart` says. -/
theorem Woven.stroke {apart more endsLine : Bool} {space text rest : List Char} {later : List Stroke}
    (separating : Text.Separating space) (present : apart = false → (space = [] ↔ more = false))
    (woven : Woven (Stroke.lead ⟨apart || more, text, endsLine⟩) later rest) :
    Woven (Lead.ofApart apart) (⟨apart || more, text, endsLine⟩ :: later) (space ++ text ++ rest) := by
  cases apart with
  | true => exact .apart separating trivial woven
  | false =>
      cases more with
      | true => exact .apart separating (fun nothing => by simpa using (present rfl).mp nothing) woven
      | false =>
          rw [(present rfl).mpr rfl]
          exact .close woven

namespace Page

theorem Stamped.woven {page later : Page String} {space added : List Char} {event : Event}
    {apart : Bool} {bond : LastWritten} {rest : List Event} (token : event.isToken = true)
    (stamped : Stamped page space event later) (sound : page.Sound)
    (present : apart = false → (space = [] ↔ (bond.needsSpace event || event.isDirective) = false))
    (silent : event.spelling = [] →
      Woven (Lead.ofApart (apart || (bond.needsSpace event || event.isDirective) || event.endsLine))
        (strokes (apart || (bond.needsSpace event || event.isDirective) || event.endsLine)
          (bond.after event) rest) added)
    (visible : event.spelling ≠ [] →
      Woven (Lead.ofApart event.endsLine) (strokes event.endsLine (bond.after event) rest) added) :
    Woven (Lead.ofApart apart) (strokes apart bond (event :: rest))
      (space ++ event.spelling ++ (if event.endsLine then page.lineEnding.toList else []) ++ added) := by
  have ending : Text.Separating (if event.endsLine then page.lineEnding.toList else []) := by
    cases event.endsLine with
    | false => exact Text.separating_nil
    | true => exact sound.ending
  simp only [strokes, token, if_true]
  by_cases empty : event.spelling = []
  · simp only [empty, List.isEmpty_nil, if_true, List.append_nil, List.append_assoc]
    refine Woven.widen stamped.separating present (Woven.widen ending (fun _ => ?_) (silent empty))
    cases event.endsLine with
    | false => simp
    | true => simpa using sound.breaks.ne_nil
  · simp only [List.isEmpty_iff, empty, if_false, List.append_assoc]
    rw [← List.append_assoc]
    exact Woven.stroke stamped.separating present (Woven.after_stroke sound (visible empty))

/-- A page shows the strokes of the events it is sent, and white space. -/
theorem emitAll_woven (events : List Event) {page : Page String} {last bond : LastWritten} {apart : Bool}
    (tracks : page.Tracks last apart bond) :
    ∃ added, Woven (Lead.ofApart apart) (strokes apart bond events) added ∧
      Grown page added (Writer.emitAll (⟨page, last⟩ : Spaced (Page String)) events).inner := by
  induction events generalizing page last bond apart with
  | nil =>
      exact ⟨[], .done Text.separating_nil (by cases apart <;> simp [Lead.ofApart]), .same rfl rfl rfl rfl⟩
  | cons event rest ih =>
      rw [Writer.emitAll_cons]
      cases token : event.isToken with
      | false =>
          obtain ⟨space, separating, present, grown, lineStart⟩ := layout_grown tracks.sound token
          rw [Spaced.emit_inner_of_calm (LastWritten.needsSpace_layout token last)]
          have tracks' : (page.emit event).Tracks (last.after event) (apart || event.isBlank) bond := by
            refine ⟨grown.sound tracks.sound, fun start => ?_, fun close => ?_⟩
            · rcases lineStart start with before | blank
              · simp [tracks.lineStart before]
              · simp [blank]
            · obtain ⟨close, calm⟩ := Bool.or_eq_false_iff.mp close
              rw [← tracks.last close]
              exact LastWritten.after_of_calm token calm last
          obtain ⟨added, woven, whole⟩ := ih tracks'
          refine ⟨space ++ added, ?_, grown.trans whole⟩
          simp only [strokes, token, Bool.false_eq_true, if_false]
          exact woven.widen separating fun _ => present
      | true =>
          obtain ⟨space, later, stamped, emitted, present⟩ := spaced_stamped tracks token
          rw [emitted, LastWritten.after_token token last bond]
          have tracks' : ∀ apart', (event.endsLine = true → apart' = true) →
              later.Tracks (bond.after event) apart' (bond.after event) := fun apart' ends =>
            ⟨stamped.grown.sound tracks.sound, fun start => ends (stamped.lineStart ▸ start), fun _ => rfl⟩
          -- A token without characters leaves no stroke, but the white space around it stays.
          by_cases empty : event.spelling = []
          · obtain ⟨added, woven, whole⟩ := ih (tracks'
              (apart || (bond.needsSpace event || event.isDirective) || event.endsLine)
              fun ends => by simp [ends])
            exact ⟨_, stamped.woven token tracks.sound present (fun _ => woven) (absurd empty),
              stamped.grown.trans whole⟩
          · obtain ⟨added, woven, whole⟩ := ih (tracks' event.endsLine id)
            exact ⟨_, stamped.woven token tracks.sound present (fun nothing => absurd nothing empty)
              (fun _ => woven), stamped.grown.trans whole⟩

theorem separating_lineEnding (ending : LineEnding) : Text.Separating ending.text.toList := by
  cases ending <;> simp [LineEnding.text, Text.Separating, Text.isSeparator]

theorem admits_lineEnding (ending : LineEnding) : Lead.line.Admits ending.text.toList := by
  cases ending with
  | lf => exact ⟨'\n', [], by simp [LineEnding.text], rfl⟩
  | crlf => exact ⟨'\r', ['\n'], by simp [LineEnding.text], rfl⟩

theorem separating_unit (indentation : Indentation) : Text.Separating indentation.unit.toList := by
  cases style : indentation.style with
  | tabs => simp [Indentation.unit, style, Text.Separating, Text.isSeparator]
  | spaces =>
      intro c member
      simp only [Indentation.unit, style, String.toList_ofList] at member
      rw [List.eq_of_mem_replicate member]
      rfl

theorem ofPolicy_sound (policy : Policy) : (Page.ofPolicy policy "").Sound where
  accepted := rfl
  unit := separating_unit policy.indentation
  ending := separating_lineEnding policy.lineEnding
  breaks := admits_lineEnding policy.lineEnding

theorem ofPolicy_tracks (policy : Policy) :
    (Page.ofPolicy policy "").Tracks .whitespace true .whitespace :=
  ⟨ofPolicy_sound policy, fun _ => rfl, fun _ => rfl⟩

end Page

def textStrokes (events : List Event) : List Stroke := strokes true .whitespace events

namespace Page

def after (policy : Policy) (events : List Event) : Page String :=
  (Writer.emitAll (⟨Page.ofPolicy policy "", .whitespace⟩ : Spaced (Page String)) events).inner

theorem after_woven (policy : Policy) (events : List Event) :
    (after policy events).failed = false ∧
      Woven .free (textStrokes events) (after policy events).destination.toList := by
  obtain ⟨added, woven, grown⟩ := emitAll_woven events (ofPolicy_tracks policy)
  have whole : (after policy events).destination.toList = added := grown.text
  exact ⟨(grown.sound (ofPolicy_sound policy)).accepted, whole ▸ woven⟩

end Page

theorem printNode_of_events {policy : Policy} {node : Node} {found : List Event}
    (printed : events policy node = .ok found) :
    printNode policy node = .ok (Page.after policy found).destination := by
  have accepted := (Page.after_woven policy found).1
  simp only [Page.after] at accepted
  simp only [printNode, printTo_eq_map_events, printed]
  simp [Except.map, bind, Except.bind, Page.finish, Page.finish?, accepted, Page.after]

theorem printNode_of_error {policy : Policy} {node : Node} {error : Error}
    (failed : events policy node = .error error) : printNode policy node = .error error := by
  simp only [printNode, printTo_eq_map_events, failed]
  rfl

end CSharpLayout
