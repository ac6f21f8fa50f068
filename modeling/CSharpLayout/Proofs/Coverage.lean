import CSharpLayout.Proofs.Offsets
import CSharpLayout.Proofs.Tracking

/-! Spans of tokens that stay in their lines. Such a span marks exactly the text from the first token of its
node to the last one, lies inside the spans of the nodes around it, and comes after the spans of the nodes
before it. -/

namespace CSharpLayout

def InLine (events : List Event) : Prop := ∀ event ∈ events, event.isToken = true → event.endsLine = false

section Tokens

theorem lead_of_split {front rest : List Event} {first : Event} (silent : hasToken front = false)
    (token : first.isToken = true) : lead (front ++ first :: rest) = front := by
  rw [lead_append_of_silent silent]
  simp [lead, token]

theorem exists_first {events : List Event} (some : hasToken events = true) :
    ∃ front first rest, events = front ++ first :: rest ∧ hasToken front = false ∧ first.isToken = true := by
  induction events with
  | nil => cases some
  | cons event rest ih =>
      cases token : event.isToken with
      | true => exact ⟨[], event, rest, rfl, rfl, token⟩
      | false =>
          obtain ⟨front, first, more, rfl, silent, found⟩ := ih (by simpa [hasToken_cons, token] using some)
          exact ⟨event :: front, first, more, rfl, by rw [hasToken_cons, token, silent]; rfl, found⟩

theorem upToLastToken_of_first {front rest : List Event} {first : Event} (token : first.isToken = true) :
    ∃ more, upToLastToken (front ++ first :: rest) = some (front ++ first :: more) := by
  rw [upToLastToken_append, upToLastToken]
  cases upToLastToken rest with
  | some found => exact ⟨found, rfl⟩
  | none => exact ⟨[], by simp [token]⟩

theorem exists_last {events front : List Event} (found : upToLastToken events = some front) :
    ∃ start last trail, front = start ++ [last] ∧ events = front ++ trail ∧ last.isToken = true := by
  induction events generalizing front with
  | nil => cases found
  | cons event rest ih =>
      rw [upToLastToken] at found
      cases later : upToLastToken rest with
      | some more =>
          rw [later] at found
          obtain ⟨start, last, trail, rfl, shape, token⟩ := ih later
          exact ⟨event :: start, last, trail,
            (Option.some.inj found).symm, by rw [shape, ← Option.some.inj found]; rfl, token⟩
      | none =>
          rw [later] at found
          cases token : event.isToken with
          | true =>
              have same : [event] = front := by simpa [token] using found
              exact ⟨[], event, rest, same.symm, by rw [← same]; rfl, token⟩
          | false => simp [token] at found

theorem upToLastToken_isPrefix {body front : List Event} (found : upToLastToken body = some front)
    (left right : List Event) :
    ∃ whole, upToLastToken (left ++ (body ++ right)) = some whole ∧ left ++ front <+: whole := by
  rw [upToLastToken_append, upToLastToken_append, found]
  cases upToLastToken right with
  | none => exact ⟨left ++ front, rfl, List.prefix_rfl⟩
  | some later =>
      obtain ⟨_, _, trail, _, shape, _⟩ := exists_last found
      refine ⟨left ++ (body ++ later), rfl, ?_⟩
      rw [shape]
      exact ⟨trail ++ later, by simp⟩

end Tokens

namespace Page

namespace Measured

variable {page : Page String}

theorem size_mono (measured : page.Measured) {early late : List Event} (before : early <+: late) :
    (Writer.emitAll page early).destination.utf8ByteSize ≤
      (Writer.emitAll page late).destination.utf8ByteSize := by
  obtain ⟨rest, rfl⟩ := before
  obtain ⟨more, later⟩ := (measured.emitAll early).emitAll_text rest
  rw [Writer.emitAll_append, later, String.utf8ByteSize_append]
  omega

theorem emit_token (measured : page.Measured) {event : Event} (token : event.isToken = true)
    (inLine : event.endsLine = false) :
    (page.emit event).destination = page.destination ++ page.owed ++ String.ofList event.spelling ∧
      (page.emit event).owed = "" := by
  have plain : event.isDirective = false := by
    cases event with
    | directive kind argument => cases inLine
    | _ => rfl
  have line : event.lineStartAfter page.atLineStart = false :=
    (Event.lineStartAfter_token token page.atLineStart).trans inLine
  obtain ⟨wrote, start⟩ := emit_wrote measured.accepted event
  refine ⟨?_, by simp [owed, start, line]⟩
  rw [wrote.text, added_token token plain, inLine]
  simp [String.append_assoc]

variable {inside : List Event}

theorem size_le_spanStart (measured : page.Measured) (inside : List Event) :
    page.destination.utf8ByteSize ≤ (page.spanStart inside).offset := by
  have begun := measured.emitAll (lead inside)
  have grown := measured.size_mono (List.nil_prefix (l := lead inside))
  rw [spanStart, begun.location_offset]
  exact Nat.le_trans grown (Nat.le_add_right _ _)

theorem spanStart_eq (measured : page.Measured) (inLine : InLine inside) {front rest : List Event}
    {first : Event} (opens : inside = front ++ first :: rest) (silent : hasToken front = false)
    (token : first.isToken = true) :
    ∃ head, (Writer.emitAll page (front ++ [first])).destination = head ++ String.ofList first.spelling ∧
      (page.spanStart inside).offset = head.utf8ByteSize := by
  have begun := measured.emitAll front
  have stays := inLine first (by simp [opens]) token
  refine ⟨(Writer.emitAll page front).destination ++ (Writer.emitAll page front).owed, ?_, ?_⟩
  · rw [Writer.emitAll_append]
    exact (begun.emit_token token stays).1
  · rw [spanStart, opens, lead_of_split silent token, begun.location_offset, String.utf8ByteSize_append]

theorem spanStop_eq (measured : page.Measured) (inLine : InLine inside) {front : List Event}
    (found : upToLastToken inside = some front) :
    (page.spanStop inside).offset = (Writer.emitAll page front).destination.utf8ByteSize := by
  obtain ⟨start, last, trail, rfl, shape, token⟩ := exists_last found
  have stays := inLine last (by simp [shape]) token
  have nothing : (Writer.emitAll page (start ++ [last])).owed = "" := by
    rw [Writer.emitAll_append]
    exact ((measured.emitAll start).emit_token token stays).2
  rw [spanStop, found, Option.getD_some, (measured.emitAll _).location_offset, nothing]
  rfl

theorem slice_eq (measured : page.Measured) (inLine : InLine inside) {front rest start trail : List Event}
    {first last : Event} (opens : inside = front ++ first :: rest) (silent : hasToken front = false)
    (token : first.isToken = true) (closes : inside = start ++ last :: trail) (quiet : hasToken trail = false)
    (token' : last.isToken = true) :
    ∃ head slice, (Writer.emitAll page (front ++ [first])).destination =
      head ++ String.ofList first.spelling ∧
      (Writer.emitAll page (start ++ [last])).destination = head ++ slice ∧
      (page.spanStart inside).offset = head.utf8ByteSize ∧
      (page.spanStop inside).offset = (head ++ slice).utf8ByteSize := by
  obtain ⟨head, begun, starts⟩ := measured.spanStart_eq inLine opens silent token
  have found : upToLastToken inside = some (start ++ [last]) := closes ▸ upToLastToken_of_split token' quiet
  obtain ⟨more, found'⟩ : ∃ more, upToLastToken (front ++ first :: rest) = some (front ++ first :: more) :=
    upToLastToken_of_first token
  rw [← opens, found] at found'
  have shape : start ++ [last] = (front ++ [first]) ++ more := by simpa using Option.some.inj found'
  obtain ⟨added, later⟩ := (measured.emitAll (front ++ [first])).emitAll_text more
  rw [← Writer.emitAll_append, ← shape, begun, String.append_assoc] at later
  refine ⟨head, String.ofList first.spelling ++ added, begun, later, starts, ?_⟩
  rw [measured.spanStop_eq inLine found, later]

theorem span_inside (measured : page.Measured) (inLine : InLine inside) {before body after : List Event}
    {node : Node} (visit : Visit inside before node body after) (some : hasToken body = true) :
    (page.spanStart inside).offset ≤ ((Writer.emitAll page before).spanStart body).offset ∧
      ((Writer.emitAll page before).spanStop body).offset ≤ (page.spanStop inside).offset := by
  have within : InLine body := fun event member => inLine event (by simp [visit.split, member])
  constructor
  · cases token : hasToken before with
    | false =>
        -- The first token of the inner node is also the first of the outer one.
        have same : lead inside = before ++ .enter node :: lead body := by
          have entering : lead (.enter node :: (body ++ .leave node :: after)) =
              .enter node :: lead (body ++ .leave node :: after) := rfl
          rw [visit.split, lead_append_of_silent token, entering, lead_append_of_hasToken some]
        rw [Page.spanStart, Page.spanStart, same, Writer.emitAll_append, Writer.emitAll_cons]
        rfl
    | true =>
        obtain ⟨front, first, rest, rfl, silent, found⟩ := exists_first token
        have opens : inside = front ++ first :: (rest ++ .enter node :: (body ++ .leave node :: after)) := by
          simp [visit.split]
        obtain ⟨head, begun, starts⟩ := measured.spanStart_eq inLine opens silent found
        have early : (Writer.emitAll page (front ++ [first])).destination.utf8ByteSize ≤
            (Writer.emitAll page (front ++ first :: rest)).destination.utf8ByteSize :=
          measured.size_mono ⟨rest, by simp⟩
        have late := (measured.emitAll (front ++ first :: rest)).size_le_spanStart body
        rw [begun, String.utf8ByteSize_append] at early
        omega
  · obtain ⟨front, found⟩ := Option.isSome_iff_exists.mp ((isSome_upToLastToken body).trans some)
    obtain ⟨whole, found', longer⟩ :=
      upToLastToken_isPrefix found (before ++ [.enter node]) (.leave node :: after)
    have shape : before ++ [.enter node] ++ (body ++ .leave node :: after) = inside := by simp [visit.split]
    rw [shape] at found'
    have grown := measured.size_mono longer
    rw [List.append_assoc, Writer.emitAll_append] at grown
    rw [measured.spanStop_eq inLine found', (measured.emitAll before).spanStop_eq within found]
    exact grown

end Measured

end Page

def Page.blank (unit ending : String) : Page String where
  destination := ""
  indentUnit := unit
  lineEnding := ending

theorem Page.blank_measured (unit ending : String) : (Page.blank unit ending).Measured := ⟨rfl, rfl⟩

def textOf (unit ending : String) (events : List Event) : String :=
  (Writer.emitAll (Page.blank unit ending) events).destination

def spanned (unit ending : String) (events : List Event) : Tracked (Page String) :=
  Writer.emitAll ({ inner := Page.blank unit ending } : Tracked (Page String)) events

section Spanned

variable {unit ending : String} {events : List Event}

theorem spanned_length (unit ending : String) (events : List Event) :
    (spanned unit ending events).spans.length = (entered 0 events).length := by
  have placed := congrArg List.length (Tracked.emitAll_places events { inner := Page.blank unit ending })
  simpa [places, spanned] using placed

theorem spanned_finish (unit ending : String) (events : List Event) :
    (spanned unit ending events).inner.finish? = some (textOf unit ending events) := by
  have accepted := ((Page.blank_measured unit ending).emitAll events).accepted
  rw [spanned, Tracked.emitAll_page, Page.finish?, accepted]
  rfl

theorem span_of_spanned (unit ending : String) {before inside after : List Event} {node : Node}
    (visit : Visit events before node inside after) :
    ∃ span, (spanned unit ending events).spans[(entered 0 before).length]? = some span ∧
      span.kind = node.kind ∧
      span.start = (Writer.emitAll (Page.blank unit ending) before).spanStart inside ∧
      span.stop = (Writer.emitAll (Page.blank unit ending) before).spanStop inside := by
  have bounded : ({ inner := Page.blank unit ending } : Tracked (Page String)).Bounded := by
    intro opened member
    cases member
  have found := Tracked.span_of_visit visit bounded
  have index := spanned_length unit ending before
  rw [spanned] at index
  rw [index] at found
  exact ⟨_, found, rfl, rfl, rfl⟩

theorem inLine_of_plain (noDirective : ∀ kind argument, .directive kind argument ∉ events)
    (noLineComment : ∀ kind content, .comment kind content ∈ events → kind ≠ .singleLine ∧
      kind ≠ .documentation) :
    InLine events := by
  intro event member token
  cases event with
  | directive kind argument => exact absurd member (noDirective kind argument)
  | comment kind content =>
      obtain ⟨noSingle, noDocumentation⟩ := noLineComment kind content member
      cases kind with
      | singleLine => exact absurd rfl noSingle
      | documentation => exact absurd rfl noDocumentation
      | _ => rfl
  | enter node => cases token
  | leave node => cases token
  | space => cases token
  | newline => cases token
  | indent => cases token
  | unindent => cases token
  | _ => rfl

variable {before inside after : List Event} {node : Node}

theorem Visit.inLine (visit : Visit events before node inside after) (inLine : InLine events) :
    InLine inside :=
  fun event member => inLine event (by simp [visit.split, member])

/-- The span of a visited node marks the text from its first token to its last. -/
theorem Visit.span_slice (visit : Visit events before node inside after) (inLine : InLine events)
    {front rest start trail : List Event} {first last : Event} (opens : inside = front ++ first :: rest)
    (silent : hasToken front = false) (token : first.isToken = true)
    (closes : inside = start ++ last :: trail) (quiet : hasToken trail = false)
    (token' : last.isToken = true) :
    ∃ span head slice tail, (spanned unit ending events).spans[(entered 0 before).length]? = some span ∧
      textOf unit ending events = head ++ slice ++ tail ∧ span.start.offset = head.utf8ByteSize ∧
      span.stop.offset = (head ++ slice).utf8ByteSize ∧
      textOf unit ending (before ++ .enter node :: (front ++ [first])) =
        head ++ String.ofList first.spelling ∧
      textOf unit ending (before ++ .enter node :: (start ++ [last])) = head ++ slice := by
  have blank := Page.blank_measured unit ending
  obtain ⟨span, found, _, starts, stops⟩ := span_of_spanned unit ending visit
  obtain ⟨head, slice, begun, ended, startsAt, stopsAt⟩ :=
    (blank.emitAll before).slice_eq (visit.inLine inLine) opens silent token closes quiet token'
  have text (more : List Event) : textOf unit ending (before ++ .enter node :: more) =
      (Writer.emitAll (Writer.emitAll (Page.blank unit ending) before) more).destination := by
    rw [textOf, Writer.emitAll_append, Writer.emitAll_cons]
    rfl
  have split : events = before ++ .enter node :: ((start ++ [last]) ++ (trail ++ .leave node :: after)) := by
    simp [visit.split, closes]
  obtain ⟨tail, whole⟩ :=
    ((blank.emitAll before).emitAll (start ++ [last])).emitAll_text (trail ++ .leave node :: after)
  rw [← Writer.emitAll_append, ← text, ← split, ended] at whole
  exact ⟨span, head, slice, tail, found, whole, by rw [starts, startsAt], by rw [stops, stopsAt],
    by rw [text, begun], by rw [text, ended]⟩

theorem Visit.span_within (visit : Visit events before node inside after) (inLine : InLine events)
    {before' inside' after' : List Event} {node' : Node} (inner : Visit inside before' node' inside' after')
    (some : hasToken inside' = true) :
    ∃ span span', (spanned unit ending events).spans[(entered 0 before).length]? = Option.some span ∧
      (spanned unit ending events).spans[(entered 0 (before ++ .enter node :: before')).length]? =
        Option.some span' ∧
      span.start.offset ≤ span'.start.offset ∧ span'.stop.offset ≤ span.stop.offset := by
  have deeper : Visit events (before ++ .enter node :: before') node' inside'
      (after' ++ .leave node :: after) :=
    ⟨by simp [visit.split, inner.split], inner.nested⟩
  obtain ⟨span, found, _, starts, stops⟩ := span_of_spanned unit ending visit
  obtain ⟨span', found', _, starts', stops'⟩ := span_of_spanned unit ending deeper
  have within :=
    ((Page.blank_measured unit ending).emitAll before).span_inside (visit.inLine inLine) inner some
  rw [Writer.emitAll_append, Writer.emitAll_cons] at starts' stops'
  refine ⟨span, span', found, found', ?_⟩
  rw [starts, stops, starts', stops']
  exact within

theorem Visit.span_after {between inside' : List Event} {node' : Node}
    (visit : Visit events before node inside (between ++ .enter node' :: (inside' ++ .leave node' :: after)))
    (inLine : InLine events) (nested : WellNested inside') (some : hasToken inside = true) :
    ∃ span span', (spanned unit ending events).spans[(entered 0 before).length]? = Option.some span ∧
      (spanned unit ending events).spans[
        (entered 0 (before ++ .enter node :: (inside ++ .leave node :: between))).length]? =
          Option.some span' ∧
      span.stop.offset ≤ span'.start.offset := by
  have later : Visit events (before ++ .enter node :: (inside ++ .leave node :: between)) node'
      inside' after :=
    ⟨by simp [visit.split], nested⟩
  have blank := Page.blank_measured unit ending
  obtain ⟨span, found, _, _, stops⟩ := span_of_spanned unit ending visit
  obtain ⟨span', found', _, starts', _⟩ := span_of_spanned unit ending later
  obtain ⟨front, last⟩ := Option.isSome_iff_exists.mp ((isSome_upToLastToken inside).trans some)
  obtain ⟨_, _, trail, _, shape, _⟩ := exists_last last
  have grown : (Writer.emitAll (Page.blank unit ending)
      (before ++ .enter node :: front)).destination.utf8ByteSize ≤
      (Writer.emitAll (Page.blank unit ending)
        (before ++ .enter node :: (inside ++ .leave node :: between))).destination.utf8ByteSize :=
    blank.size_mono ⟨trail ++ .leave node :: between, by simp [shape]⟩
  refine ⟨span, span', found, found', ?_⟩
  rw [stops, starts', (blank.emitAll before).spanStop_eq (visit.inLine inLine) last]
  have after' :=
    (blank.emitAll (before ++ .enter node :: (inside ++ .leave node :: between))).size_le_spanStart inside'
  rw [Writer.emitAll_append, Writer.emitAll_cons] at grown
  exact Nat.le_trans grown after'

end Spanned

/-- Well nested events without directives and comments that end lines. Spans come in the order in which
nodes are entered, and the span of a node with a token marks the text from its first token to its last. So
it lies inside the spans of the nodes around it and after the spans of the nodes that were left before. -/
theorem spans_mark_tokens (unit ending : String) {events : List Event} (nested : WellNested events)
    (noDirective : ∀ kind argument, .directive kind argument ∉ events)
    (noLineComment : ∀ kind content, .comment kind content ∈ events → kind ≠ .singleLine ∧
      kind ≠ .documentation) :
    (spanned unit ending events).inner.finish? = some (textOf unit ending events) ∧
      (spanned unit ending events).spans.map (fun span => (span.index, span.depth, span.kind)) =
        ((entered 0 events).zipIdx.map fun (visit, index) => (index, visit.1, visit.2.kind)) ∧
      (∀ (before : List Event) (node : Node) (rest : List Event), events = before ++ .enter node :: rest →
        ∃ inside after, Visit events before node inside after) ∧
      (∀ (before : List Event) (node : Node) (inside after : List Event),
        Visit events before node inside after →
        ∀ (front : List Event) (first : Event) (rest start : List Event) (last : Event) (trail : List Event),
          inside = front ++ first :: rest → hasToken front = false → first.isToken = true →
          inside = start ++ last :: trail → hasToken trail = false → last.isToken = true →
          ∃ (span : NodeSpan) (head slice tail : String),
            (spanned unit ending events).spans[(entered 0 before).length]? = some span ∧
            textOf unit ending events = head ++ slice ++ tail ∧ span.start.offset = head.utf8ByteSize ∧
            span.stop.offset = (head ++ slice).utf8ByteSize ∧
            textOf unit ending (before ++ .enter node :: (front ++ [first])) =
              head ++ String.ofList first.spelling ∧
            textOf unit ending (before ++ .enter node :: (start ++ [last])) = head ++ slice) ∧
      (∀ (before : List Event) (node : Node) (inside after before' : List Event) (node' : Node)
          (inside' after' : List Event), Visit events before node inside after →
        Visit inside before' node' inside' after' → hasToken inside' = true →
        ∃ outer inner : NodeSpan, (spanned unit ending events).spans[(entered 0 before).length]? =
          some outer ∧
          (spanned unit ending events).spans[(entered 0 (before ++ .enter node :: before')).length]? =
            some inner ∧
          outer.start.offset ≤ inner.start.offset ∧ inner.stop.offset ≤ outer.stop.offset) ∧
      ∀ (before : List Event) (node : Node) (inside between : List Event) (node' : Node)
        (inside' after : List Event),
        Visit events before node inside (between ++ .enter node' :: (inside' ++ .leave node' :: after)) →
        WellNested inside' → hasToken inside = true →
        ∃ earlier later : NodeSpan, (spanned unit ending events).spans[(entered 0 before).length]? =
          some earlier ∧
          (spanned unit ending events).spans[
            (entered 0 (before ++ .enter node :: (inside ++ .leave node :: between))).length]? = some later ∧
          earlier.stop.offset ≤ later.start.offset := by
  have inLine := inLine_of_plain noDirective noLineComment
  refine ⟨spanned_finish unit ending events, ?_, ?_, ?_, ?_, ?_⟩
  · exact Tracked.emitAll_places events { inner := Page.blank unit ending }
  · intro before node rest split
    obtain ⟨_, nested⟩ := nested
    obtain ⟨_, inside, after, rfl, _, inner⟩ := nested.leaves split
    exact ⟨inside, after, split, inner.wellNested⟩
  · intro before node inside after visit front first rest start last trail opens silent token
      closes quiet token'
    exact visit.span_slice inLine opens silent token closes quiet token'
  · intro before node inside after before' node' inside' after' visit inner some
    exact visit.span_within inLine inner some
  · intro before node inside between node' inside' after visit nested' some
    exact visit.span_after inLine nested' some

def loneName : Node := .expression (.identifier ⟨"x", false, none⟩ [])

def loneStatement : Node := .statement (.expression (.identifier ⟨"x", false, none⟩ []))

def insideStatement : List Event :=
  [.enter loneName, .identifier "x" .localVariable, .leave loneName, .token .semicolon ";", .newline]

def indentedStatement : List Event :=
  [.indent] ++ .enter loneStatement :: (insideStatement ++ [.leave loneStatement])

theorem semicolon_ends_statement_span :
    WellNested indentedStatement ∧ (∀ kind argument, .directive kind argument ∉ indentedStatement) ∧
      (∀ kind content, .comment kind content ∈ indentedStatement → kind ≠ .singleLine ∧
        kind ≠ .documentation) ∧
      ∃ span head slice tail, (spanned "\t" "\n" indentedStatement).spans[0]? = some span ∧
        "\tx;\n" = head ++ slice ++ tail ∧ span.start.offset = head.utf8ByteSize ∧
        span.stop.offset = (head ++ slice).utf8ByteSize ∧ "\tx" = head ++ "x" ∧ "\tx;" = head ++ slice := by
  have inside : Nested (fun _ _ _ => True) ([loneName] ++ ([] ++ [])) insideStatement :=
    .append (.visit trivial (.plain rfl)) (.append (.plain rfl) (.plain rfl))
  have nested : WellNested indentedStatement :=
    ⟨[] ++ [loneStatement], .append (.plain rfl) (.visit trivial inside)⟩
  have noDirective : ∀ kind argument, .directive kind argument ∉ indentedStatement := by
    simp [indentedStatement, insideStatement]
  have noLineComment : ∀ kind content, .comment kind content ∈ indentedStatement →
      kind ≠ .singleLine ∧ kind ≠ .documentation := by
    simp [indentedStatement, insideStatement]
  obtain ⟨_, _, _, slices, _⟩ := spans_mark_tokens "\t" "\n" nested noDirective noLineComment
  have visit : Visit indentedStatement [.indent] loneStatement insideStatement [] := ⟨rfl, inside.wellNested⟩
  obtain ⟨span, head, slice, tail, found, whole, starts, stops, begun, ended⟩ := slices _ _ _ _ visit
    [.enter loneName] (.identifier "x" .localVariable) [.leave loneName, .token .semicolon ";", .newline]
    [.enter loneName, .identifier "x" .localVariable, .leave loneName] (.token .semicolon ";") [.newline]
    rfl rfl rfl rfl rfl rfl
  exact ⟨nested, noDirective, noLineComment, span, head, slice, tail, found, whole, starts, stops,
    begun, ended⟩

end CSharpLayout
