import CSharpLayout.Proofs.Beginnings

/-! Braces. A body in braces stands where the style of its braces puts it: the opening brace behind the
header or on the next line, what is inside on indented lines, and the closing brace first in a line of its
own. -/

namespace CSharpLayout

def Event.shown : Event → String
  | .space => " "
  | event => String.ofList event.spelling

namespace Page

/-- An event begins a line: what was written before it is empty or ends with a line break, and the event
stands behind `units` of indentation. -/
structure FirstInLine (policy : Policy) (events : List Event) (first : Event) (units : Nat) : Prop where
  line : (after policy events).destination = "" ∨
    ∃ front, (after policy events).destination = front ++ policy.lineEnding.text
  text : (after policy (events ++ [first])).destination = (after policy events).destination ++
    (String.join (List.replicate units policy.indentation.unit) ++ first.shown ++
      if first.endsLine then policy.lineEnding.text else "")

variable {policy : Policy} {events more : List Event} {first : Event}

theorem after_indentation {reached : Nat}
    (found : level (after policy events).indentation more = some reached) :
    (after policy (events ++ more)).indentation = reached := by
  have grown : Writer.emitAll (⟨Page.ofPolicy policy "", .whitespace⟩ : Spaced (Page String))
      (events ++ more) =
      Writer.emitAll (Writer.emitAll (⟨Page.ofPolicy policy "", .whitespace⟩ : Spaced (Page String)) events)
        more :=
    List.foldl_append
  rw [after, grown]
  exact emitAll_indentation more _ found

theorem after_unit (policy : Policy) (events : List Event) :
    (after policy events).indentUnit = policy.indentation.unit := by
  have empty : (Page.ofPolicy policy "").Measured := ⟨rfl, rfl⟩
  rw [after_eq]
  exact (empty.emitAll_line _).1

theorem after_concat (line : (after policy events).atLineStart = true) (first : Event) :
    after policy (events ++ [first]) = (after policy events).emit first := by
  have start : lineStartAfterEvents true events = true := by
    rw [after_atLineStart, Margin.atStart_marginAfter] at line
    exact line
  -- at the start of a line no space is needed before any event
  rw [after_eq, after_eq, withSpaces_append, LastWritten.foldl_after_lineStart events (fun _ => rfl) start,
    withSpaces, if_neg (by simp [LastWritten.needsSpace_whitespace])]
  exact List.foldl_append

theorem firstInLine (line : (after policy events).atLineStart = true) (begins : first.beginsText = true) :
    FirstInLine policy events first (after policy events).indentation := by
  refine ⟨after_endsLine line, ?_⟩
  have owed : (after policy events).owed =
      String.join (List.replicate (after policy events).indentation policy.indentation.unit) := by
    rw [Page.owed, if_pos line, after_unit]
  have added : (after policy events).added first =
      (after policy events).owed ++ first.shown ++ if first.endsLine then policy.lineEnding.text else "" := by
    cases first with
    | space => exact String.append_empty.symm
    | enter node => cases begins
    | leave node => cases begins
    | newline => cases begins
    | indent => cases begins
    | unindent => cases begins
    | directive kind argument => cases begins
    | _ => exact (added_token rfl rfl _).trans (by rw [after_lineEnding]; rfl)
  rw [after_concat line, (emit_wrote (after_measured policy events).accepted first).1.text, added, owed]

theorem after_lineStart (policy : Policy) (events : List Event) :
    (after policy events).atLineStart = lineStartAfterEvents true events := by
  rw [after_atLineStart, Margin.atStart_marginAfter]
  rfl

theorem after_brace (policy : Policy) (events : List Event) (role : TokenRole) :
    after policy (events ++ [.token role "\x7b"]) = (after policy events).emit (.token role "\x7b") := by
  rw [after_eq, after_eq, withSpaces_append]
  exact List.foldl_append

theorem after_brace_open (opened : (after policy events).atLineStart = false) (role : TokenRole) :
    (after policy (events ++ [.token role "\x7b"])).destination =
      (after policy events).destination ++ "\x7b" := by
  have added : (after policy events).added (.token role "\x7b") = "\x7b" := by
    rw [added_token rfl rfl, owed, if_neg (by simp [opened])]
    rfl
  rw [after_brace, (emit_wrote (after_measured policy events).accepted _).1.text, added]

theorem after_space_open (opened : (after policy events).atLineStart = false) :
    (after policy (events ++ [.space])).destination = (after policy events).destination ++ " " := by
  have added : (after policy events).added .space = " " := by
    simp [Page.added, owed, opened]
  rw [after_layout policy events (by simp [Event.isToken])]
  exact (emit_wrote (after_measured policy events).accepted .space).1.text.trans (congrArg _ added)

end Page

namespace BraceStyle

def ownLine : BraceStyle → Bool
  | .nextLine => true
  | .nextLineIndented => true
  | .nextLineIndentedTwice => true
  | _ => false

def separator : BraceStyle → List Event
  | .sameLineNoSpace => []
  | style => if style.ownLine then [.newline] else [.space]

def lead (style : BraceStyle) (atLineStart : Bool) : List Event :=
  (if atLineStart then [] else style.separator) ++ List.replicate style.openShift .indent

def closeShift : BraceStyle → Nat
  | .banner => 1
  | .nextLineIndented => 1
  | .nextLineIndentedTwice => 1
  | _ => 0

def opened : BraceStyle → List Event
  | .nextLineIndented => [.newline]
  | _ => [.indent, .newline]

def closing : BraceStyle → List Event
  | .banner => []
  | .nextLineIndented => []
  | _ => [.unindent]

def closed (style : BraceStyle) : List Event := List.replicate style.closeShift .unindent

end BraceStyle

namespace Layout

section Parts

variable (policy : Policy) (node : Node) (address : List Nat) (above : Frames) (slot : Nat)
    (atLineStart : Bool)
  (style : BraceStyle)

theorem settled_openBrace : settled atLineStart (partSteps policy node address above slot (openBrace style)) =
    style.lead atLineStart ++ .token .openBrace "\x7b" :: style.opened := by
  cases style <;> cases atLineStart <;> rfl

theorem lineStart_openBrace :
    lineStartAfterSteps atLineStart (partSteps policy node address above slot (openBrace style)) = true := by
  cases style <;> rfl

theorem lineStart_closeBrace :
    lineStartAfterSteps atLineStart (partSteps policy node address above slot (closeBrace style)) =
      false := by
  cases style <;> rfl

theorem settled_closeBrace :
    settled atLineStart (partSteps policy node address above slot (closeBrace style)) =
    style.closing ++ .token .closeBrace "\x7d" :: style.closed := by
  cases style <;> rfl

end Parts

structure BracedVisit (policy : Policy) (node : Node) (address : List Nat) (above : Frames)
    (found : BracedPlan) (before after header inside closing rest : List Event) : Prop where
  after_eq : after =
    header ++ (found.style.lead (lineStartAfterEvents true (before ++ .enter node :: header)) ++
    .token .openBrace "\x7b" :: (inside ++ .token .closeBrace "\x7d" :: (closing ++ .leave node :: rest)))
  header_eq : header = settled (lineStartAfterEvents true before)
    (partSteps policy node address above 0 found.heading)
  inside_eq : inside = found.style.opened ++ (settled true
    (partSteps policy node address above (slots found.heading) (outdentedIf found.flat found.lines)) ++
      found.style.closing)
  headerSound : firstFault? (partSteps policy node address above 0 found.heading) = none
  headerTaken : (held found.heading).map Prod.snd <+: node.children.drop 0
  linesSound : firstFault?
    (partSteps policy node address above (slots found.heading) (outdentedIf found.flat found.lines)) = none
  linesTaken : (held (outdentedIf found.flat found.lines)).map Prod.snd <+: node.children.drop
    (slots found.heading)
  headerNested : WellNested header
  insideNested : WellNested inside
  closingNested : WellNested closing

theorem lineStart_enter (atLineStart : Bool) (node : Node) (before header : List Event) :
    lineStartAfterEvents atLineStart (before ++ .enter node :: header) =
      lineStartAfterEvents (lineStartAfterEvents atLineStart before) header := by
  rw [lineStartAfterEvents_append]
  rfl

theorem slots_openBrace (style : BraceStyle) : slots (openBrace style) = 0 := by cases style <;> rfl

theorem Visited.braced {policy : Policy} {before after rest : List Event} {node : Node} {address : List Nat}
    {above : Frames} {found : BracedPlan}
    (visited : Visited policy [] true before node after address above rest)
    (shape : bracedPlan? policy (⟨node, address⟩ :: above) node = some found) :
    ∃ header inside closing,
      BracedVisit policy node address above found before after header inside closing rest := by
  have body := visited.body
  have sound := visited.sound
  have quiet := calm_plan policy (⟨node, address⟩ :: above) node
  have pieces : plan policy (⟨node, address⟩ :: above) node = found.heading ++ (openBrace found.style ++
      (outdentedIf found.flat found.lines ++ (closeBrace found.style ++ found.closing))) := by
    rw [plan_of_braced shape, BracedPlan.pieces, Layout.braced]
    simp only [List.append_assoc]
  have whole := taken_of_sound sound
  have brace : held (openBrace found.style) = [] := by cases found.style <;> rfl
  rw [pieces, held_append, held_append, held_append, brace, List.map_append, List.nil_append,
    List.map_append] at whole
  have taken : (held (outdentedIf found.flat found.lines)).map Prod.snd <+: node.children.drop
      (slots found.heading) := by
    rw [List.drop_zero] at whole
    rw [← whole, slots_eq_length, List.drop_left' (List.length_map _)]
    exact List.prefix_append _ _
  simp only [pieces, calm_append, Bool.and_eq_true] at quiet
  obtain ⟨calmHeading, _, calmLines, _, calmClosing⟩ := quiet
  simp only [pieces, partSteps_append, firstFault?_append, Option.or_eq_none_iff, Nat.zero_add,
    slots_openBrace, Nat.add_zero] at body sound
  obtain ⟨headerSound, _, linesSound, _, closingSound⟩ := sound
  simp only [settled_append, settled_openBrace, lineStart_openBrace, settled_closeBrace, lineStart_closeBrace,
    List.append_assoc, List.cons_append] at body
  rw [← lineStartAfterEvents_settled, ← lineStart_enter true node before] at body
  refine ⟨_, _, found.style.closed ++ _, ⟨body.trans ?_, rfl, rfl, headerSound, ⟨_, whole⟩, linesSound, taken,
    partSteps_wellNested calmHeading headerSound _, ?_, .append (.of_plain ?_)
      (partSteps_wellNested calmClosing closingSound false)⟩⟩
  · simp only [List.append_assoc]
  · refine WellNested.append (.of_plain ?_)
      (.append (partSteps_wellNested calmLines linesSound _) (.of_plain ?_))
    · cases found.style <;> simp [BraceStyle.opened, Event.isBoundary]
    · cases found.style <;> simp [BraceStyle.closing, Event.isBoundary]
  · intro event member
    rw [List.eq_of_mem_replicate member]
    rfl

end Layout

namespace BraceStyle

variable {policy : Policy} {start : List Event} {style : BraceStyle}

theorem level_lead (style : BraceStyle) (atLineStart : Bool) (depth : Nat) :
    level depth (style.lead atLineStart) = some (depth + style.openShift) := by
  cases style <;> cases atLineStart <;> rfl

theorem level_opened (style : BraceStyle) (depth : Nat) :
    level (depth + style.openShift) style.opened = some (depth + Layout.braceDepth style) := by
  cases style <;> rfl

theorem level_closing (style : BraceStyle) (depth : Nat) :
    level (depth + Layout.braceDepth style) style.closing = some (depth + style.closeShift) := by
  cases style <;> rfl

theorem lineStart_lead {atLineStart : Bool} (own : (style.ownLine || atLineStart) = true) :
    lineStartAfterEvents atLineStart (style.lead atLineStart) = true := by
  cases atLineStart with
  | true => cases style <;> rfl
  | false =>
      cases style with
      | doNotChange => cases own
      | sameLine => cases own
      | sameLineNoSpace => cases own
      | banner => cases own
      | _ => rfl

theorem lead_begins (own : (style.ownLine || (Page.after policy start).atLineStart) = true) :
    Page.FirstInLine policy (start ++ style.lead (Page.after policy start).atLineStart)
      (.token .openBrace "\x7b")
      ((Page.after policy start).indentation + style.openShift) := by
  have line : (Page.after policy (start ++ style.lead (Page.after policy start).atLineStart)).atLineStart =
      true := by
    rw [Page.after_lineStart, lineStartAfterEvents_append, ← Page.after_lineStart policy]
    exact lineStart_lead own
  have depth := Page.after_indentation (level_lead style (Page.after policy start).atLineStart
    (Page.after policy start).indentation)
  exact depth ▸ Page.firstInLine line rfl

theorem lead_follows (sameLine : style.ownLine = false)
    (opened : (Page.after policy start).atLineStart = false) :
    (Page.after policy (start ++ style.lead false ++ [.token .openBrace "\x7b"])).destination =
      (Page.after policy start).destination ++ (if style = .sameLineNoSpace then "" else " ") ++ "\x7b" := by
  have spaced : (Page.after policy (start ++ [.space])).atLineStart = false := by
    rw [Page.after_lineStart, lineStartAfterEvents_append]
    rfl
  have apart : (Page.after policy (start ++ [.space] ++ [.token .openBrace "\x7b"])).destination =
      (Page.after policy start).destination ++ " " ++ "\x7b" := by
    rw [Page.after_brace_open spaced, Page.after_space_open opened]
  cases style with
  | sameLineNoSpace => simpa [lead, separator, openShift] using Page.after_brace_open opened .openBrace
  | doNotChange => exact apart
  | sameLine => exact apart
  | banner => exact apart
  | _ => cases sameLine

end BraceStyle

namespace Layout

section Bodies

variable {policy : Policy} {node : Node} {address : List Nat} {above : Frames} {found : BracedPlan}
  {before after header inside closing rest : List Event}

theorem level_part (pieces : List Piece) (slot : Nat) (atLineStart : Bool) (depth : Nat) :
    level depth (settled atLineStart (partSteps policy node address above slot pieces)) =
      pieceLevel depth pieces :=
  partSteps_level policy (fun _ _ _ _ => steps_balanced policy _ _ _) slot atLineStart depth

theorem hasHeader_of_braced {frames : Frames} (shape : bracedPlan? policy frames node = some found) :
    node.hasHeader = false := by
  cases node with
  | statement inner =>
      cases inner with
      | forLoop initializers condition iterators body => cases shape
      | usingResource resource body => cases shape
      | _ => rfl
  | _ => rfl

theorem lineStart_of_margin {steps : List Step} (ended : marginAfterSteps .start steps = .start) :
    lineStartAfterEvents true (settled true steps) = true := by
  have reached : (marginAfter .start (settled true steps)).atStart = true := by
    rw [show true = Margin.start.atStart from rfl, marginAfter_settled, ended]
  rw [Margin.atStart_marginAfter] at reached
  exact reached

theorem BracedVisit.closes
    (visit : BracedVisit policy node address above found before after header inside closing rest)
    (shape : bracedPlan? policy (⟨node, address⟩ :: above) node = some found)
    (fine : flawed (plan policy (⟨node, address⟩ :: above) node) = false)
    (plain : node.Every fun part => part.kind ≠ .pattern) (start : List Event) (atLineStart : Bool) :
    Page.FirstInLine policy
      (start ++ (found.style.lead atLineStart ++ .token .openBrace "\x7b" :: inside))
      (.token .closeBrace "\x7d") ((Page.after policy start).indentation + found.style.closeShift) := by
  have lined := lined_of_braced shape fine plain.children
  have still (depth : Nat) : pieceLevel (depth + braceDepth found.style)
      (outdentedIf found.flat found.lines) =
      some (depth + braceDepth found.style) :=
    pieceLevel_outdentedIf _ (fun depth => (lined.ended depth).2) (by cases found.style <;> simp [braceDepth])
  -- indentation alone leaves the margin as it is, so a flat list ends its last line as well
  have ended : pieceMargin (Node.ending (some node)) (some .start) (outdentedIf found.flat found.lines) =
      some .start := by
    cases found.flat with
    | false => exact (lined.ended 0).1
    | true =>
        change pieceMargin _ _ (unindent ++ found.lines ++ indent) = _
        rw [pieceMargin_append, pieceMargin_append]
        change pieceMargin _ (pieceMargin _ (some .start) found.lines) indent = _
        rw [(lined.ended 0).1]
        rfl
  have line := lineStart_of_margin
    (part_margin plain (hasHeader_of_braced shape) visit.linesTaken visit.linesSound (.inr rfl) ended)
  have depth : level (Page.after policy start).indentation
      (found.style.lead atLineStart ++ .token .openBrace "\x7b" :: inside) =
        some ((Page.after policy start).indentation + found.style.closeShift) := by
    rw [level_append, BraceStyle.level_lead, Option.bind_some, level_cons]
    change level ((Page.after policy start).indentation + found.style.openShift) inside = _
    rw [visit.inside_eq, level_append, BraceStyle.level_opened, Option.bind_some, level_append,
      level_part, still, Option.bind_some, BraceStyle.level_closing]
  have begun : (Page.after policy
      (start ++ (found.style.lead atLineStart ++ .token .openBrace "\x7b" :: inside))).atLineStart =
        true := by
    have opened : lineStartAfterEvents false found.style.opened = true := by cases found.style <;> rfl
    have closed : lineStartAfterEvents true found.style.closing = true := by cases found.style <;> rfl
    rw [Page.after_lineStart, lineStartAfterEvents_append, lineStartAfterEvents_append]
    change lineStartAfterEvents false inside = true
    rw [visit.inside_eq, lineStartAfterEvents_append, opened, lineStartAfterEvents_append, line, closed]
  exact Page.after_indentation depth ▸ Page.firstInLine begun rfl

def BracedPlan.outdent (found : BracedPlan) : Nat := if found.flat then 1 else 0

theorem pieceLevel_opening (found : BracedPlan) (depth : Nat) :
    pieceLevel depth (openBrace found.style ++ if found.flat then unindent else []) =
      some (depth + braceDepth found.style - found.outdent) := by
  rw [pieceLevel_append, pieceLevel_openBrace, Option.bind_some, BracedPlan.outdent]
  cases found.flat with
  | false => rfl
  | true => cases found.style <;> rfl

theorem PlannedVisit.inBody {child : Node} {upTo through later : List Event} {front back : List Piece}
    (planned : PlannedVisit policy before node child upTo through later address above front back rest)
    (visit : BracedVisit policy node address above found before after header inside closing rest)
    (shape : bracedPlan? policy (⟨node, address⟩ :: above) node = some found)
    (same : found.lines = listing policy node) (apart : ∀ child ∈ node.listed, .child child ∉ found.heading)
    (bare : held found.closing = []) (plain : node.Every fun part => part.kind ≠ .pattern)
    (listed : child ∈ node.listed) :
    (Page.after policy upTo).indentation =
      (Page.after policy (before ++ .enter node :: header)).indentation + braceDepth found.style -
        found.outdent := by
  have lined := same ▸ lined_of_braced shape planned.fine plain.children
  obtain ⟨whole, ahead, behind⟩ := listing_shape shape same apart bare
  obtain ⟨earlier, later, rfl, rfl, cut⟩ :=
    listing_located listed (whole.symm.trans planned.shape) ahead behind
  have grown : upTo = (before ++ .enter node :: header) ++
      settled (lineStartAfterSteps (lineStartAfterEvents true before)
        (partSteps policy node address above 0 found.heading))
        (partSteps policy node address above (slots found.heading)
          ((openBrace found.style ++ if found.flat then unindent else []) ++ earlier)) := by
    rw [planned.start, BracedPlan.ahead, List.append_assoc, partSteps_append, settled_append,
      ← visit.header_eq, Nat.zero_add]
    simp only [List.append_assoc, List.cons_append]
  rw [grown]
  refine Page.after_indentation ?_
  rw [level_part, pieceLevel_append, pieceLevel_opening, Option.bind_some, (lined.began cut _).2]

end Bodies

end Layout

def Piece.isPlain : Piece → Bool
  | .event found => !found.isLayout
  | .child _ => true
  | .problem _ => true
  | _ => false

namespace Layout

def EndsPlain (pieces : List Piece) : Prop := ∃ front last, pieces = front ++ [last] ∧ last.isPlain = true

namespace EndsPlain

variable {left right : List Piece}

theorem one {last : Piece} (plain : last.isPlain = true) : EndsPlain [last] := ⟨[], last, rfl, plain⟩

theorem after (ends : EndsPlain right) (left : List Piece) : EndsPlain (left ++ right) := by
  obtain ⟨front, last, rfl, plain⟩ := ends
  exact ⟨left ++ front, last, (List.append_assoc ..).symm, plain⟩

theorem followed (ends : EndsPlain left) (more : right = [] ∨ EndsPlain right) :
    EndsPlain (left ++ right) := by
  rcases more with rfl | more
  · rwa [List.append_nil]
  · exact more.after left

theorem identifier (frames : Frames) (name : Identifier) (tokenClass : TokenClass) :
    EndsPlain (identifier frames name tokenClass) := by
  unfold Layout.identifier
  split
  · exact one rfl
  · exact one rfl

theorem commaSeparated (policy : Policy) {nodes : List Node} (some : nodes ≠ []) :
    EndsPlain (commaSeparated policy nodes) := by
  induction nodes with
  | nil => exact absurd rfl some
  | cons node rest ih =>
      cases rest with
      | nil => exact one rfl
      | cons next rest => exact (ih (List.cons_ne_nil _ _)).after _

theorem visitAll (nodes : List Node) : visitAll nodes = [] ∨ EndsPlain (visitAll nodes) := by
  rcases List.eq_nil_or_concat nodes with rfl | ⟨front, last, rfl⟩
  · exact .inl rfl
  · exact .inr ⟨Layout.visitAll front, .child last, by simp [Layout.visitAll], rfl⟩

theorem chevronList (policy : Policy) (nodes : List Node) :
    chevronList policy nodes = [] ∨ EndsPlain (chevronList policy nodes) := by
  unfold Layout.chevronList
  split
  · exact .inl rfl
  · exact .inr ((one rfl).after _)

theorem settled {policy : Policy} {node : Node} {address : List Nat} {above : Frames} {slot : Nat}
    {pieces : List Piece} (ends : EndsPlain pieces)
    (sound : firstFault? (partSteps policy node address above slot pieces) = none) (atLineStart : Bool) :
    ∃ front last, settled atLineStart (partSteps policy node address above slot pieces) = front ++ [last] ∧
      last.isLayout = false := by
  obtain ⟨front, last, rfl, plain⟩ := ends
  rw [partSteps_append, firstFault?_append, Option.or_eq_none_iff] at sound
  obtain ⟨first, _⟩ := firstFault?_partSteps_cons sound.2
  rw [partSteps_append, settled_append]
  cases last with
  | event event => exact ⟨_, event, rfl, by simpa [Piece.isPlain] using plain⟩
  | problem problem => simp [pieceSteps] at first
  | child found =>
      -- a child ends with its own leave event
      by_cases present : slot + slots front < node.children.length
      · rw [partSteps_cons, pieceSteps, if_pos present, partSteps_nil, List.append_nil, settled_steps,
          ← List.cons_append, ← List.append_assoc]
        exact ⟨_, .leave _, rfl, rfl⟩
      · simp [pieceSteps, present] at first
  | _ => cases plain

end EndsPlain

end Layout

namespace Node

/-- The style of the braces around the body of a node: the one that the policy has for its kind, or for what
a block is the body of. -/
def bodyStyle? (policy : Policy) (parent : Option Node) : Node → Option BraceStyle
  | .namespaceDeclaration _ => some (policy.braces .namespaceBody)
  | .typeDeclaration declaration => some (policy.braces (Layout.typeBraces declaration.kind))
  | .property _ => some (policy.braces .property)
  | .indexer _ => some (policy.braces .property)
  | .customEvent _ => some (policy.braces .event)
  | .block _ => some (policy.braces (Layout.blockSite parent))
  | .statement (.switch _ _) => some (policy.braces .statement)
  | _ => none

def outdent (policy : Policy) : Node → Nat
  | .statement (.switch _ _) => if policy.indentation.switchBody then 0 else 1
  | _ => 0

end Node

namespace Layout

theorem body_spec {policy : Policy} {frames : Frames} {node : Node} {style : BraceStyle}
    (selected : node.bodyStyle? policy frames.parent? = some style) :
    node.hasBody = true ∧ ∀ found, bracedPlan? policy frames node = some found →
      found.style = style ∧ found.outdent = node.outdent policy ∧
        (found.heading = [] ∨ EndsPlain found.heading) := by
  cases node with
  | namespaceDeclaration declaration =>
      cases selected
      refine ⟨rfl, fun found shape => ?_⟩
      cases shape
      exact ⟨rfl, rfl, .inr ((EndsPlain.one rfl).after _)⟩
  | typeDeclaration declaration =>
      cases selected
      refine ⟨rfl, fun found shape => ?_⟩
      cases shape
      refine ⟨rfl, rfl, .inr ?_⟩
      refine ((((EndsPlain.identifier _ _ _).after _).followed (EndsPlain.chevronList _ _)).followed
        ?_).followed
        (EndsPlain.visitAll _)
      cases bases : declaration.baseTypes with
      | nil => exact .inl rfl
      | cons first others => exact .inr ((EndsPlain.commaSeparated policy (List.cons_ne_nil _ _)).after _)
  | property declaration =>
      cases selected
      refine ⟨rfl, fun found shape => ?_⟩
      cases shape
      exact ⟨rfl, rfl, .inr ((EndsPlain.identifier _ _ _).after _)⟩
  | indexer declaration =>
      cases selected
      refine ⟨rfl, fun found shape => ?_⟩
      cases shape
      exact ⟨rfl, rfl, .inr (((EndsPlain.one rfl).after _).after _)⟩
  | customEvent declaration =>
      cases selected
      refine ⟨rfl, fun found shape => ?_⟩
      cases shape
      exact ⟨rfl, rfl, .inr ((EndsPlain.identifier _ _ _).after _)⟩
  | block inner =>
      cases selected
      refine ⟨rfl, fun found shape => ?_⟩
      cases shape
      exact ⟨rfl, rfl, .inl rfl⟩
  | statement inner =>
      cases inner with
      | switch operand sections =>
          cases selected
          refine ⟨rfl, fun found shape => ?_⟩
          cases shape
          refine ⟨rfl, ?_, .inr (((EndsPlain.one rfl).after _).after _)⟩
          simp only [BracedPlan.outdent, Node.outdent]
          cases policy.indentation.switchBody <;> rfl
      | _ => cases selected
  | _ => cases selected

end Layout

/-- How a body in braces stands on the page. The header of its owner ends at `start`, where the brace is
opened, and `inside` are the events between the braces. -/
structure BodyInBraces (policy : Policy) (style : BraceStyle) (found before : List Event) (owner : Node)
    (start inside closing after : List Event) : Prop where
  header : ∃ header, start = before ++ .enter owner :: header ∧ WellNested header ∧
    (header = [] ∨ ∃ front last, header = front ++ [last] ∧ last.isLayout = false)
  whole : found = start ++ (style.lead (Page.after policy start).atLineStart ++ .token .openBrace "\x7b" ::
    (inside ++ .token .closeBrace "\x7d" :: (closing ++ .leave owner :: after)))
  nested : WellNested inside ∧ WellNested closing
  opens : if style.ownLine || (Page.after policy start).atLineStart then
      Page.FirstInLine policy (start ++ style.lead (Page.after policy start).atLineStart)
        (.token .openBrace "\x7b")
        ((Page.after policy start).indentation + style.openShift)
    else (Page.after policy (start ++ style.lead false ++ [.token .openBrace "\x7b"])).destination =
      (Page.after policy start).destination ++ (if style = .sameLineNoSpace then "" else " ") ++ "\x7b"
  members : ∀ child upTo through later, ChildVisit found before owner child upTo through later →
    child ∈ owner.listed →
    (Page.after policy upTo).atLineStart = true ∧
      (Page.after policy upTo).indentation =
        (Page.after policy start).indentation + Layout.braceDepth style - owner.outdent policy ∧
      ∃ lead first rest, through = upTo ++ (lead ++ first :: rest) ∧ (∀ event ∈ lead, event.writes = false) ∧
        Page.FirstInLine policy (upTo ++ lead) first
          ((Page.after policy upTo).indentation + child.shift policy (some owner))
  closes : Page.FirstInLine policy
    (start ++ (style.lead (Page.after policy start).atLineStart ++ .token .openBrace "\x7b" :: inside))
    (.token .closeBrace "\x7d") ((Page.after policy start).indentation + style.closeShift)

theorem Frames.parent?_cons (frame : Frame) (above : Frames) :
    Frames.parent? (frame :: above) = (above.map Frame.node).head? := by
  cases above <;> rfl

namespace Layout

variable {policy : Policy} {style : BraceStyle} {found before later rest : List Event} {owner : Node}
    {address : List Nat}
  {above : Frames}

theorem PlannedVisit.beginsLine {child : Node} {upTo through after : List Event} {front back : List Piece}
    (planned : PlannedVisit policy before owner child upTo through after address above front back rest)
    (plain : owner.Every fun part => part.kind ≠ .pattern) (own : child.kind ≠ .preprocessorDirective)
    (listed : child ∈ owner.listed) (line : (Page.after policy upTo).atLineStart = true) :
    ∃ lead first more, through = upTo ++ (lead ++ first :: more) ∧ (∀ event ∈ lead, event.writes = false) ∧
      Page.FirstInLine policy (upTo ++ lead) first
        ((Page.after policy upTo).indentation + child.shift policy (some owner)) := by
  obtain ⟨lead, first, more, written, text, silent, shift⟩ :=
    listed_begins listed (plain.child planned.member) own planned.childSound
  have started := line
  rw [Page.after_lineStart] at started
  have begun : (Page.after policy (upTo ++ lead)).atLineStart = true := by
    rw [Page.after_lineStart, lineStartAfterEvents_append, lineStartAfterEvents_of_silent silent, started]
  refine ⟨lead, first, more, ?_, silent, Page.after_indentation (shift _) ▸ Page.firstInLine begun text⟩
  rw [planned.finish, started, written]

theorem Visited.bodyInBraces (visited : Visited policy [] true before owner later address above rest)
    (split : found = before ++ .enter owner :: later)
    (plain : owner.Every fun part => part.kind ≠ .pattern ∧ part.kind ≠ .preprocessorDirective)
    (selected : owner.bodyStyle? policy (openAfter [] before).head? = some style) :
    ∃ start inside closing after,
      BodyInBraces policy style found before owner start inside closing after := by
  have noPattern := plain.imp fun _ both => both.1
  have fine := flawed_of_sound visited.sound
  rw [← visited.nodes, ← Frames.parent?_cons ⟨owner, address⟩] at selected
  obtain ⟨body, spec⟩ := body_spec selected
  obtain ⟨braced, shape, same, apart, bare⟩ := body_listing body
  obtain ⟨rfl, outdent, heading⟩ := spec braced shape
  obtain ⟨header, inside, closing, parts⟩ := visited.braced shape
  refine ⟨before ++ .enter owner :: header, inside, closing, rest, ⟨header, rfl, parts.headerNested, ?_⟩, ?_,
    ⟨parts.insideNested, parts.closingNested⟩, ?_, ?_, parts.closes shape fine noPattern _ _⟩
  · rcases heading with empty | ends
    · left
      rw [parts.header_eq, empty]
      rfl
    · right
      rw [parts.header_eq]
      exact ends.settled parts.headerSound _
  · rw [split, Page.after_lineStart, parts.after_eq]
    simp only [List.append_assoc, List.cons_append]
  · split
    next own => exact BraceStyle.lead_begins own
    next same =>
        obtain ⟨sameLine, opened⟩ := Bool.or_eq_false_iff.mp (Bool.not_eq_true _ ▸ same)
        exact BraceStyle.lead_follows sameLine opened
  · intro child upTo through after visit listed
    obtain ⟨front, back, planned⟩ := visit.planned split visited
    have lines := planned.ownLines noPattern listed (.inl ?_)
    · refine ⟨lines.begins, outdent ▸ planned.inBody parts shape same apart bare noPattern listed, ?_⟩
      exact planned.beginsLine noPattern (plain.child planned.member).self.2 listed lines.begins
    · cases owner with
      | syntaxTree tree => cases body
      | _ => rfl

end Layout

/-- A file without placeholders and directives has its bodies where the styles of their braces put them. -/
theorem bodies_follow_brace_style {policy : Policy} {tree : SyntaxTree} {text : String}
    (plain : (Node.syntaxTree tree).Every fun part => part.kind ≠ .pattern ∧
      part.kind ≠ .preprocessorDirective)
    (printed : print policy tree = .ok text) :
    ∃ found, events policy (.syntaxTree tree) = .ok found ∧ (Page.after policy found).destination = text ∧
      ∀ before owner later style, found = before ++ .enter owner :: later →
        owner.bodyStyle? policy (openAfter [] before).head? = some style →
        ∃ start inside closing after,
          BodyInBraces policy style found before owner start inside closing after := by
  obtain ⟨found, run, _⟩ := print_events printed
  have same := printed
  rw [print, printNode_of_events run] at same
  refine ⟨found, run, Except.ok.inj same, fun before owner later style split selected => ?_⟩
  obtain ⟨address, above, rest, every, _, visited⟩ := events_visited plain run split
  exact visited.bodyInBraces split every selected

def Policy.movedStatements : Policy :=
  { Policy.kr with braces := fun site => if site = .statement then .nextLineIndented else .sameLine }

def blockInBlock : Block := ⟨[.block ⟨[]⟩]⟩

def blockInDestructor : DestructorDeclaration := ⟨[], [], ⟨"C", false, none⟩, some blockInBlock⟩

def destructible : TypeDeclaration :=
  ⟨[], [], .classType, ⟨"C", false, none⟩, [], [], [], [.destructor blockInDestructor], false, false⟩

theorem destructible_follows_brace_style :
    (Node.syntaxTree ⟨[.type destructible]⟩).Every
        (fun part => part.kind ≠ .pattern ∧ part.kind ≠ .preprocessorDirective) ∧
      print Policy.movedStatements ⟨[.type destructible]⟩ =
        .ok "class C \x7b\n\t~C() \x7b\n\t\t\t\x7b\n\t\t\t\x7d\n\t\x7d\n\x7d\n" ∧
      ∃ found, events Policy.movedStatements (.syntaxTree ⟨[.type destructible]⟩) = .ok found ∧
        ∀ before owner later style, found = before ++ .enter owner :: later →
          owner.bodyStyle? Policy.movedStatements (openAfter [] before).head? = some style →
          ∃ start inside closing after,
            BodyInBraces Policy.movedStatements style found before owner start inside closing after := by
  have plain : (Node.syntaxTree ⟨[.type destructible]⟩).Every
      fun part => part.kind ≠ .pattern ∧ part.kind ≠ .preprocessorDirective := by decide +kernel
  have printed : print Policy.movedStatements ⟨[.type destructible]⟩ =
      .ok "class C \x7b\n\t~C() \x7b\n\t\t\t\x7b\n\t\t\t\x7d\n\t\x7d\n\x7d\n" := by decide +kernel
  obtain ⟨found, run, _, bodies⟩ := bodies_follow_brace_style plain printed
  exact ⟨plain, printed, found, run, bodies⟩

/-- A statement of a body that is itself a block need not begin at the indentation of the body: here one
unit for the destructor, two for what is in its body, and three for the brace of the block there. -/
theorem block_in_block_moves_in :
    ∃ found before upTo through later,
      events Policy.movedStatements (.syntaxTree ⟨[.type destructible]⟩) = .ok found ∧
        ChildVisit found before (.block blockInBlock) (.block ⟨[]⟩) upTo through later ∧
        (Node.block blockInBlock).bodyStyle? Policy.movedStatements (openAfter [] before).head? =
          some .sameLine ∧
        (Page.after Policy.movedStatements (before ++ [.enter (.block blockInBlock)])).indentation = 1 ∧
        (Page.after Policy.movedStatements upTo).atLineStart = true ∧
        (Page.after Policy.movedStatements through).destination =
          (Page.after Policy.movedStatements upTo).destination ++ "\t\t\t\x7b\n\t\t\t\x7d\n" := by
  let before : List Event :=
    [.enter (.syntaxTree ⟨[.type destructible]⟩), .enter (.typeDeclaration destructible), .keyword "class",
      .identifier "C" .type, .space, .token .openBrace "\x7b", .indent, .newline,
      .enter (.destructor blockInDestructor), .token .operator "~", .identifier "C" .type,
      .token .openParen "(", .token .closeParen ")"]
  let opening : List Event := [.space, .token .openBrace "\x7b", .indent, .newline]
  let inner : List Event :=
    [.indent, .token .openBrace "\x7b", .newline, .token .closeBrace "\x7d", .unindent, .newline]
  let later : List Event :=
    [.unindent, .token .closeBrace "\x7d", .newline, .leave (.block blockInBlock),
      .leave (.destructor blockInDestructor), .unindent, .token .closeBrace "\x7d", .newline,
      .leave (.typeDeclaration destructible), .leave (.syntaxTree ⟨[.type destructible]⟩)]
  refine ⟨_, before, before ++ .enter (.block blockInBlock) :: opening,
    before ++ .enter (.block blockInBlock) :: opening ++ .enter (.block ⟨[]⟩) ::
      (inner ++ [.leave (.block ⟨[]⟩)]), later,
    ?_, ⟨⟨opening, rfl, .of_plain (by simp [opening, Event.isBoundary])⟩,
      ⟨inner, rfl, .of_plain (by simp [inner, Event.isBoundary])⟩,
      rfl⟩, rfl, by decide +kernel, by decide +kernel,
    by decide +kernel⟩
  set_option maxRecDepth 4000 in
  with_unfolding_all rfl

end CSharpLayout
