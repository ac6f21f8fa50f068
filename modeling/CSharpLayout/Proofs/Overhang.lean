import CSharpLayout.Proofs.Coverage
import CSharpLayout.Proofs.Opening

/-! Where spans end. A span never ends before it starts. It may end behind the text: after a token that ends
its line, the place of the next token counts the indentation of the new line, which may be written only in
part or not at all. -/

namespace CSharpLayout

section Spaces

variable {fits : Node → List Node → List Event → Prop} {last : LastWritten}

theorem isFirm_withSpaces (last : LastWritten) (events : List Event) :
    isFirm (withSpaces last events) = isFirm events := by
  induction events generalizing last with
  | nil => rfl
  | cons event rest ih =>
      cases token : event.isToken with
      | false => rw [withSpaces_silent token, isFirm_cons_of_silent token, isFirm_cons_of_silent token, ih]
      | true =>
          rw [withSpaces]
          split
          · rw [isFirm_cons_of_silent rfl]
            simp [isFirm, token]
          · simp [isFirm, token]

theorem level_lead_withSpaces (depth : Nat) (last : LastWritten) (events : List Event) :
    level depth (lead (withSpaces last events)) = level depth (lead events) := by
  induction events generalizing depth last with
  | nil => rfl
  | cons event rest ih =>
      cases token : event.isToken with
      | false =>
          have go (rest : List Event) : lead (event :: rest) = event :: lead rest := by simp [lead, token]
          simp only [withSpaces_silent token, go, level_cons, ih]
      | true =>
          have silent : Event.space.isToken = false := rfl
          rw [withSpaces]
          split
          all_goals simp [lead, token, silent, level, Event.shifted]

theorem Balanced.withSpaces {events : List Event} (balanced : Balanced events) (last : LastWritten) :
    Balanced (withSpaces last events) :=
  fun depth => (level_withSpaces depth last events).trans (balanced depth)

theorem Steady.withSpaces {events : List Event} (steady : Steady events) (last : LastWritten) :
    Steady (withSpaces last events) := by
  intro loose depth
  rw [isFirm_withSpaces] at loose
  rw [level_lead_withSpaces]
  exact steady loose depth

theorem Nested.withSpaces {nodes : List Node} {events : List Event} (nested : Nested fits nodes events)
    (kept : ∀ node inner body last, fits node inner body → fits node inner (withSpaces last body))
    (last : LastWritten) :
    Nested fits nodes (withSpaces last events) := by
  induction nested generalizing last with
  | nil => exact .nil
  | @plain event calm =>
      rw [CSharpLayout.withSpaces]
      split
      · exact (Nested.plain rfl).followed (.plain calm)
      · exact .plain calm
  | append _ _ first second =>
      rw [withSpaces_append]
      exact .append (first last) (second _)
  | @visit node inner body suits _ ih =>
      rw [withSpaces_silent rfl, withSpaces_append, withSpaces_silent rfl]
      exact .visit (kept node inner body _ suits) (ih _)

end Spaces

theorem shifted_add {event : Event} {depth reached : Nat} (found : event.shifted depth = some reached)
    (base : Nat) :
    event.shifted (base + depth) = some (base + reached) := by
  cases event with
  | indent => exact congrArg _ (congrArg (base + ·) (Option.some.inj found))
  | unindent =>
      simp only [Event.shifted] at found ⊢
      split at found
      · simp at found
      · have taken := Option.some.inj found
        rw [if_neg (by omega)]
        exact congrArg _ (by omega)
  | _ => exact congrArg _ (congrArg (base + ·) (Option.some.inj found))

namespace Page

namespace Measured

variable {page : Page String}

theorem emitAll_line (measured : page.Measured) (events : List Event) :
    (Writer.emitAll page events).indentUnit = page.indentUnit ∧
      (Writer.emitAll page events).atLineStart =
        events.foldl (fun atLineStart event => event.lineStartAfter atLineStart) page.atLineStart := by
  induction events generalizing page with
  | nil => exact ⟨rfl, rfl⟩
  | cons event rest ih =>
      obtain ⟨wrote, start⟩ := emit_wrote measured.accepted event
      obtain ⟨unit, later⟩ := ih (measured.emit event)
      refine ⟨unit.trans wrote.unit, later.trans ?_⟩
      rw [start]
      rfl

theorem owed_le_added {event : Event} (token : event.isToken = true) (plain : event.isDirective = false)
    (page : Page String) : page.owed.utf8ByteSize ≤ (page.added event).utf8ByteSize := by
  rw [added_token token plain, String.append_assoc, String.utf8ByteSize_append]
  exact Nat.le_add_right _ _

theorem location_le_of_token (measured : page.Measured) {event : Event} (token : event.isToken = true)
    (plain : event.isDirective = false) (rest : List Event) :
    page.location.offset ≤ (Writer.emitAll page (event :: rest)).location.offset := by
  obtain ⟨wrote, _⟩ := emit_wrote measured.accepted event
  obtain ⟨more, text⟩ := (measured.emit event).emitAll_text rest
  have size : (Writer.emitAll page (event :: rest)).destination.utf8ByteSize =
      page.destination.utf8ByteSize + (page.added event).utf8ByteSize + more.utf8ByteSize := by
    rw [← String.utf8ByteSize_append, ← wrote.text, ← String.utf8ByteSize_append, ← text]
    rfl
  have less := owed_le_added token plain page
  rw [measured.location_offset, (measured.emitAll _).location_offset]
  omega

/-- The place of the next token moves back only where a line begins. -/
theorem location_step (measured : page.Measured) (event : Event) :
    (page.emit event).atLineStart = true ∨ page.location.offset ≤ (page.emit event).location.offset := by
  obtain ⟨wrote, start⟩ := emit_wrote measured.accepted event
  cases line : event.lineStartAfter page.atLineStart with
  | true => exact .inl (start.trans line)
  | false =>
      have less : page.owed.utf8ByteSize ≤ (page.added event).utf8ByteSize := by
        have empty (start : page.atLineStart = false) : page.owed = "" := by simp [owed, start]
        cases event with
        | enter node => exact empty line ▸ Nat.zero_le _
        | leave node => exact empty line ▸ Nat.zero_le _
        | indent => exact empty line ▸ Nat.zero_le _
        | unindent => exact empty line ▸ Nat.zero_le _
        | newline => cases line
        | directive kind argument => cases line
        | space => simp [added]
        | _ => exact owed_le_added rfl rfl page
      rw [measured.location_offset, (measured.emit event).location_offset, wrote.text,
        String.utf8ByteSize_append]
      exact .inr (by omega)

/-- A place that was reached stays reached as long as the indentation does not fall below `base`. -/
theorem le_location (measured : page.Measured) {events : List Event} {base depth reached bound : Nat}
    (deep : page.indentation = base + depth) (found : level depth events = some reached)
    (low : bound ≤ page.destination.utf8ByteSize + base * page.indentUnit.utf8ByteSize)
    (here : bound ≤ page.location.offset) : bound ≤ (Writer.emitAll page events).location.offset := by
  induction events generalizing page depth with
  | nil => exact here
  | cons event rest ih =>
      rw [level_cons] at found
      obtain ⟨between, step, later⟩ := Option.bind_eq_some_iff.mp found
      obtain ⟨wrote, _⟩ := emit_wrote measured.accepted event
      have deep' : (page.emit event).indentation = base + between :=
        emit_indentation page (deep ▸ shifted_add step base)
      have low' : bound ≤ (page.emit event).destination.utf8ByteSize + base *
          (page.emit event).indentUnit.utf8ByteSize := by
        rw [wrote.text, wrote.unit, String.utf8ByteSize_append]
        omega
      have here' : bound ≤ (page.emit event).location.offset := by
        rcases measured.location_step event with start | further
        · rw [(measured.emit event).location_offset, owed_size, start, if_pos rfl, deep', Nat.add_mul]
          omega
        · exact Nat.le_trans here further
      exact ih (measured.emit event) deep' later low' here'

theorem spanStart_le_spanStop (measured : page.Measured) {inside : List Event} (even : Balanced inside)
    (steady : Steady inside) : (page.spanStart inside).offset ≤ (page.spanStop inside).offset := by
  cases some : hasToken inside with
  | false => rw [spanStart, spanStop, lead_of_silent some, upToLastToken_of_silent some, Option.getD_none]
  | true =>
      obtain ⟨front, first, rest, rfl, silent, token⟩ := exists_first some
      obtain ⟨more, found⟩ : ∃ more, upToLastToken (front ++ first :: rest) =
        Option.some (front ++ first :: more) :=
        upToLastToken_of_first token
      have begun := measured.emitAll front
      rw [spanStart, spanStop, lead_of_split silent token, found, Option.getD_some, Writer.emitAll_append]
      cases directive : first.isDirective with
      | false => exact begun.location_le_of_token token directive more
      | true =>
          -- A directive is written without indentation, but the lines after it are as deep as the node.
          have loose : isFirm (front ++ first :: rest) = false := by
            rw [isFirm_append_of_silent silent]
            simp [isFirm, token, directive]
          have back : Balanced front := lead_of_split silent token ▸ steady loose
          have deep : (Writer.emitAll page front).indentation = page.indentation + 0 :=
            emitAll_level front page (back _)
          obtain ⟨_, _, trail, _, shape, _⟩ := exists_last found
          have whole := even 0
          rw [shape, level_append, level_append, back 0, Option.bind_some] at whole
          obtain ⟨reached, inner, _⟩ := Option.bind_eq_some_iff.mp whole
          refine begun.le_location deep inner ?_ (Nat.le_refl _)
          rw [begun.location_offset, owed_size, deep]
          split
          · exact Nat.le_refl _
          · omega

end Measured

end Page

/-- The bytes of indentation that the line would get if a token came after the events. -/
def owedAfter (unit : String) (events : List Event) : Nat :=
  if events.foldl (fun atLineStart event => event.lineStartAfter atLineStart) true then
    (level 0 events).getD 0 * unit.utf8ByteSize
  else 0

/-- All events up to the last token of a visited node, or up to where the node is left if it has no token. -/
def throughVisit (before : List Event) (node : Node) (inside : List Event) : List Event :=
  before ++ .enter node :: (upToLastToken inside).getD inside

section Spanned

variable {unit ending : String} {events : List Event}

theorem location_after_offset (unit ending : String) {reached : Nat} (found : level 0 events = some reached) :
    (Writer.emitAll (Page.blank unit ending) events).location.offset =
      (textOf unit ending events).utf8ByteSize + owedAfter unit events := by
  have blank := Page.blank_measured unit ending
  obtain ⟨same, line⟩ := blank.emitAll_line events
  have deep := Page.emitAll_level events (Page.blank unit ending) found
  rw [(blank.emitAll events).location_offset, Page.owed_size, line, same, deep, owedAfter, found]
  rfl

theorem exists_enter {depth index : Nat} (within : index < (entered depth events).length) :
    ∃ before node rest, events = before ++ .enter node :: rest ∧ (entered depth before).length = index := by
  induction events generalizing depth index with
  | nil => cases within
  | cons event rest ih =>
      cases event with
      | enter node =>
          cases index with
          | zero => exact ⟨[], node, rest, rfl, rfl⟩
          | succ index =>
              obtain ⟨before, found, after, rfl, place⟩ := ih (Nat.lt_of_succ_lt_succ within)
              exact ⟨.enter node :: before, found, after, rfl, congrArg (· + 1) place⟩
      | leave node =>
          obtain ⟨before, found, after, rfl, place⟩ :=
            ih (show index < (entered (depth - 1) rest).length from within)
          exact ⟨.leave node :: before, found, after, rfl, place⟩
      | _ =>
          obtain ⟨before, found, after, rfl, place⟩ :=
            ih (show index < (entered depth rest).length from within)
          exact ⟨_ :: before, found, after, rfl, place⟩

variable {fits : Node → List Node → List Event → Prop} {nodes : List Node} {before inside after : List Event}
  {node : Node}

theorem Nested.fits_of_visit (nested : Nested fits nodes events)
    (visit : Visit events before node inside after) : ∃ inner, fits node inner inside := by
  obtain ⟨inner, body, rest, shape, suits, visited⟩ := nested.leaves visit.split
  have same : inside = body := visit.nested.unique visited.wellNested shape
  exact ⟨inner, same ▸ suits⟩

theorem Nested.visit_of_span (nested : Nested fits nodes events) {span : NodeSpan}
    (member : span ∈ (spanned unit ending events).spans) :
    ∃ before node inside after, Visit events before node inside after ∧
      (spanned unit ending events).spans[(entered 0 before).length]? = some span := by
  obtain ⟨index, within, rfl⟩ := List.mem_iff_getElem.mp member
  have counted := within
  rw [spanned_length] at counted
  obtain ⟨before, node, rest, split, place⟩ := exists_enter counted
  obtain ⟨_, inside, after, rfl, _, visited⟩ := nested.leaves split
  exact ⟨before, node, inside, after,
    ⟨split, visited.wellNested⟩, by rw [place, List.getElem?_eq_getElem within]⟩

theorem Visit.span_stop (visit : Visit events before node inside after) (balanced : Balanced events) :
    ∃ span later, (spanned unit ending events).spans[(entered 0 before).length]? = some span ∧
      textOf unit ending events = textOf unit ending (throughVisit before node inside) ++ later ∧
      span.stop.offset = (textOf unit ending (throughVisit before node inside)).utf8ByteSize +
        owedAfter unit (throughVisit before node inside) := by
  obtain ⟨span, found, _, _, stops⟩ := span_of_spanned unit ending visit
  obtain ⟨trail, shape⟩ : ∃ trail, inside = (upToLastToken inside).getD inside ++ trail := by
    cases last : upToLastToken inside with
    | none => exact ⟨[], (List.append_nil _).symm⟩
    | some front =>
        obtain ⟨_, _, trail, _, shape, _⟩ := exists_last last
        exact ⟨trail, shape⟩
  have split : events = throughVisit before node inside ++ (trail ++ .leave node :: after) := by
    conv => lhs; rw [visit.split, shape]
    simp [throughVisit]
  have whole := balanced 0
  rw [split, level_append] at whole
  obtain ⟨reached, first, _⟩ := Option.bind_eq_some_iff.mp whole
  obtain ⟨later, text⟩ :=
    ((Page.blank_measured unit ending).emitAll (throughVisit before node inside)).emitAll_text
    (trail ++ .leave node :: after)
  rw [← Writer.emitAll_append, ← split] at text
  refine ⟨span, later, found, text, ?_⟩
  rw [stops, ← location_after_offset unit ending first, throughVisit, Writer.emitAll_append,
    Writer.emitAll_cons]
  rfl

theorem owedAfter_of_inLine {start trail : List Event} {last : Event}
    (closes : inside = start ++ last :: trail) (quiet : hasToken trail = false)
    (token : last.isToken = true) (inLine : last.endsLine = false) (unit : String) (before : List Event)
    (node : Node) : owedAfter unit (throughVisit before node inside) = 0 := by
  have line (atLineStart : Bool) : last.lineStartAfter atLineStart = false :=
    (Event.lineStartAfter_token token atLineStart).trans inLine
  rw [throughVisit, closes, upToLastToken_of_split token quiet, owedAfter]
  simp [line]

end Spanned

theorem printWithMap_eq_ok {policy : Policy} {tree : SyntaxTree} {text : String} {spans : List NodeSpan}
    (mapped : printWithMap policy tree = .ok (text, spans)) :
    ∃ found, events policy (.syntaxTree tree) = .ok found ∧
      text = textOf policy.indentation.unit policy.lineEnding.text (withSpaces .whitespace found) ∧
      spans = (spanned policy.indentation.unit policy.lineEnding.text
        (withSpaces .whitespace found)).spans := by
  rw [printWithMap_eq] at mapped
  cases printed : events policy (.syntaxTree tree) with
  | error error =>
      rw [printed] at mapped
      cases mapped
  | ok found =>
      rw [printed] at mapped
      obtain ⟨rfl, rfl⟩ := Prod.mk.inj (Except.ok.inj mapped)
      refine ⟨found, rfl, ?_, rfl⟩
      rw [Page.after, Spaced.emitAll_inner]
      rfl

/-- A printed tree with its map. No span ends before it starts. A span ends after the text of its node
through the node's last token and the indentation that is owed there, which is none if that token stays in
its line. So all spans end in the text exactly if, wherever the output of a node ends, no more indentation
is owed than text follows. -/
theorem spans_end_in_text_iff {policy : Policy} {tree : SyntaxTree} {text : String} {spans : List NodeSpan}
    (mapped : printWithMap policy tree = .ok (text, spans)) :
    ∃ found, spacedEvents policy (.syntaxTree tree) = .ok found ∧
      (∀ span ∈ spans, span.start.offset ≤ span.stop.offset) ∧
      (∀ before node inside after, Visit found before node inside after →
        ∃ span later, spans[(entered 0 before).length]? = some span ∧
          text = textOf policy.indentation.unit policy.lineEnding.text (throughVisit before node inside) ++
            later ∧
          span.stop.offset =
            (textOf policy.indentation.unit policy.lineEnding.text
              (throughVisit before node inside)).utf8ByteSize +
              owedAfter policy.indentation.unit (throughVisit before node inside)) ∧
      (∀ before node inside after, Visit found before node inside after →
        ∀ start last trail, inside = start ++ last :: trail → hasToken trail = false → last.isToken = true →
          last.endsLine = false → owedAfter policy.indentation.unit (throughVisit before node inside) = 0) ∧
      ((∀ span ∈ spans, span.stop.offset ≤ text.utf8ByteSize) ↔
        ∀ before node inside after later, Visit found before node inside after →
          text = textOf policy.indentation.unit policy.lineEnding.text (throughVisit before node inside) ++
            later →
          owedAfter policy.indentation.unit (throughVisit before node inside) ≤ later.utf8ByteSize) := by
  obtain ⟨plain, printed, rfl, rfl⟩ := printWithMap_eq_ok mapped
  have balanced := (events_balanced printed).2.withSpaces .whitespace
  have nested := (events_steady printed).withSpaces
    (fun _ _ _ last fits => ⟨fits.1.withSpaces last, fits.2.withSpaces last⟩) .whitespace
  refine ⟨withSpaces .whitespace plain, by rw [spacedEvents_eq, printed]; rfl, ?_, ?_, ?_, ?_, ?_⟩
  · intro span member
    obtain ⟨before, node, inside, after, visit, found⟩ := nested.visit_of_span member
    obtain ⟨_, even, steady⟩ := nested.fits_of_visit visit
    obtain ⟨same, found', _, starts, stops⟩ :=
      span_of_spanned policy.indentation.unit policy.lineEnding.text visit
    obtain rfl : span = same := Option.some.inj (found.symm.trans found')
    rw [starts, stops]
    exact ((Page.blank_measured _ _).emitAll before).spanStart_le_spanStop even steady
  · intro before node inside after visit
    exact visit.span_stop balanced
  · intro before node inside after _ start last trail closes quiet token inLine
    exact owedAfter_of_inLine closes quiet token inLine _ before node
  · intro within before node inside after later visit text
    obtain ⟨span, _, found, _, stops⟩ := visit.span_stop balanced
    have bound := within span (List.mem_of_getElem? found)
    rw [text, String.utf8ByteSize_append] at bound
    omega
  · intro enough span member
    obtain ⟨before, node, inside, after, visit, found⟩ := nested.visit_of_span member
    obtain ⟨same, later, found', text, stops⟩ := visit.span_stop balanced
    obtain rfl : span = same := Option.some.inj (found.symm.trans found')
    have covered := enough before node inside after later visit text
    rw [text, String.utf8ByteSize_append]
    omega

def commentedType (kind : TypeKind) (members : List TypeMember) : SyntaxTree where
  members := [.type ⟨[], [], kind, ⟨"T", false, none⟩, [], [], [], .comment ⟨.singleLine, " c"⟩ :: members,
    false, false⟩]

def Policy.fourSpaces : Policy := { Policy.allman with indentation := { style := .spaces } }

theorem comment_before_member_ends_in_text :
    ∃ text spans found,
      printWithMap Policy.fourSpaces
        (commentedType .enumType [.enumMember ⟨[], [], ⟨"A", false, none⟩, none⟩]) =
        .ok (text, spans) ∧
      spacedEvents Policy.fourSpaces
        (.syntaxTree (commentedType .enumType [.enumMember ⟨[], [], ⟨"A", false, none⟩, none⟩])) = .ok found ∧
      (∀ span ∈ spans, span.start.offset ≤ span.stop.offset) ∧
      ∀ before node inside after later, Visit found before node inside after →
        text = textOf "    " "\n" (throughVisit before node inside) ++ later →
        owedAfter "    " (throughVisit before node inside) ≤ later.utf8ByteSize := by
  have mapped : printWithMap Policy.fourSpaces
      (commentedType .enumType [.enumMember ⟨[], [], ⟨"A", false, none⟩, none⟩]) =
        .ok ("enum T\n\x7b\n    // c\n    A\n\x7d\n",
          [⟨0, .syntaxTree, 0, ⟨1, 1, 0⟩, ⟨5, 2, 25⟩⟩, ⟨1, .typeDeclaration, 1, ⟨1, 1, 0⟩, ⟨5, 2, 25⟩⟩,
            ⟨2, .comment, 2, ⟨3, 5, 13⟩, ⟨4, 5, 22⟩⟩, ⟨3, .enumMember, 2, ⟨4, 5, 22⟩, ⟨4, 6, 23⟩⟩]) := by decide +kernel
  obtain ⟨found, spaced, ordered, _, _, covered⟩ := spans_end_in_text_iff mapped
  exact ⟨_, _, found, mapped, spaced, ordered, covered.mp (by decide)⟩

/-- The indentation counts that the line after the comment would have, and only the closing brace follows. -/
theorem comment_before_brace_overhangs :
    ∃ text spans, printWithMap Policy.fourSpaces (commentedType .classType []) = .ok (text, spans) ∧
      ∃ span ∈ spans, text.utf8ByteSize < span.stop.offset := by
  refine ⟨"class T\n\x7b\n    // c\n\x7d\n",
    [⟨0, .syntaxTree, 0, ⟨1, 1, 0⟩, ⟨4, 2, 20⟩⟩, ⟨1, .typeDeclaration, 1, ⟨1, 1, 0⟩, ⟨4, 2, 20⟩⟩,
      ⟨2, .comment, 2, ⟨3, 5, 14⟩, ⟨4, 5, 23⟩⟩], by decide +kernel, ?_⟩
  decide

end CSharpLayout
