import CSharpLayout.Proofs.Context
import CSharpLayout.Proofs.Lexing
import CSharpLayout.Proofs.Overhang

/-! Files one after another. The members of a file each end their line and give back their indentation, so
the text of a file is the text of its beginning, the blank lines after a run of using directives, and the
text of the rest. -/

namespace CSharpLayout

def lineStartAfterEvents (atLineStart : Bool) (events : List Event) : Bool :=
  events.foldl (fun atLineStart event => event.lineStartAfter atLineStart) atLineStart

theorem lineStartAfterEvents_append (atLineStart : Bool) (left right : List Event) :
    lineStartAfterEvents atLineStart (left ++ right) =
      lineStartAfterEvents (lineStartAfterEvents atLineStart left) right := List.foldl_append

/-- Events after which a page that was at the start of a line is there again, with the same indentation. -/
structure Rests (events : List Event) : Prop where
  balanced : Balanced events
  line : lineStartAfterEvents true events = true

theorem Rests.append {left right : List Event} (first : Rests left) (second : Rests right) :
    Rests (left ++ right) where
  balanced := first.balanced.append second.balanced
  line := by rw [lineStartAfterEvents_append, first.line, second.line]

theorem Rests.enter (node : Node) : Rests [.enter node] := ⟨fun _ => rfl, rfl⟩

theorem Rests.newline : Rests [.newline] := ⟨fun _ => rfl, rfl⟩

theorem Rests.newlines (count : Nat) : Rests (List.replicate count .newline) := by
  induction count with
  | zero => exact ⟨fun _ => rfl, rfl⟩
  | succ count ih => exact newline.append ih

theorem LastWritten.after_lineStart {last : LastWritten} {atLineStart : Bool} {event : Event}
    (start : atLineStart = true → last = .whitespace) (line : event.lineStartAfter atLineStart = true) :
    last.after event = .whitespace := by
  cases event with
  | enter node => exact start line
  | leave node => exact start line
  | indent => exact start line
  | unindent => exact start line
  | comment kind content => rfl
  | directive kind argument => rfl
  | newline => rfl
  | _ => cases line

theorem LastWritten.foldl_after_lineStart (events : List Event) {last : LastWritten} {atLineStart : Bool}
    (start : atLineStart = true → last = .whitespace)
    (line : lineStartAfterEvents atLineStart events = true) :
    events.foldl LastWritten.after last = .whitespace := by
  induction events generalizing last atLineStart with
  | nil => exact start line
  | cons event rest ih => exact ih (fun started => after_lineStart start started) line

theorem Rests.withSpaces_append {left : List Event} (rests : Rests left) (right : List Event) :
    withSpaces .whitespace (left ++ right) = withSpaces .whitespace left ++ withSpaces .whitespace right := by
  rw [CSharpLayout.withSpaces_append, LastWritten.foldl_after_lineStart left (fun _ => rfl) rests.line]

/-- The spaces that the grammar needs come before tokens only, so they do not change where lines start. -/
theorem lineStartAfterEvents_withSpaces (events : List Event) (last : LastWritten) (atLineStart : Bool) :
    lineStartAfterEvents atLineStart (withSpaces last events) = lineStartAfterEvents atLineStart events := by
  induction events generalizing last atLineStart with
  | nil => rfl
  | cons event rest ih =>
      cases token : event.isToken with
      | false =>
          rw [withSpaces_silent token]
          exact ih _ _
      | true =>
          have line := Event.lineStartAfter_token token
          rw [withSpaces]
          split
          · change lineStartAfterEvents (event.lineStartAfter false) _ =
              lineStartAfterEvents (event.lineStartAfter atLineStart) rest
            rw [ih, line, line]
          · exact ih _ _

namespace Page

structure Behind (front : String) (page later : Page String) : Prop where
  text : later.destination = front ++ page.destination
  accepted : page.failed = false
  accepted' : later.failed = false
  unit : later.indentUnit = page.indentUnit
  ending : later.lineEnding = page.lineEnding
  indentation : later.indentation = page.indentation
  line : later.atLineStart = page.atLineStart

namespace Behind

variable {front : String} {page later : Page String}

theorem added (behind : Behind front page later) (event : Event) : later.added event = page.added event := by
  have owed : later.owed = page.owed := by
    rw [Page.owed, Page.owed, behind.line, behind.indentation, behind.unit]
  cases event <;> simp only [Page.added, owed, behind.ending, behind.line]

theorem emit_indentation (behind : Behind front page later) (event : Event) :
    (later.emit event).indentation = (page.emit event).indentation := by
  cases event with
  | indent => exact congrArg (· + 1) behind.indentation
  | unindent => exact congrArg (· - 1) behind.indentation
  | _ =>
      refine (Page.emit_indentation later rfl).trans ?_
      exact behind.indentation.trans (Page.emit_indentation page rfl).symm

theorem emit (behind : Behind front page later) (event : Event) :
    Behind front (page.emit event) (later.emit event) := by
  obtain ⟨wrote, line⟩ := emit_wrote behind.accepted event
  obtain ⟨wrote', line'⟩ := emit_wrote behind.accepted' event
  refine ⟨?_, wrote.accepted, wrote'.accepted, ?_, ?_, behind.emit_indentation event, ?_⟩
  · rw [wrote'.text, wrote.text, behind.text, behind.added, String.append_assoc]
  · rw [wrote'.unit, wrote.unit, behind.unit]
  · rw [wrote'.ending, wrote.ending, behind.ending]
  · rw [line', line, behind.line]

theorem emitAll (behind : Behind front page later) (events : List Event) :
    Behind front (Writer.emitAll page events) (Writer.emitAll later events) := by
  induction events generalizing page later with
  | nil => exact behind
  | cons event rest ih => exact ih (behind.emit event)

end Behind

theorem emitAll_lineEnding {page : Page String} (accepted : page.failed = false) (events : List Event) :
    (Writer.emitAll page events).lineEnding = page.lineEnding := by
  induction events generalizing page with
  | nil => rfl
  | cons event rest ih =>
      obtain ⟨wrote, _⟩ := emit_wrote accepted event
      exact (ih wrote.accepted).trans wrote.ending

theorem after_eq (policy : Policy) (events : List Event) :
    after policy events = Writer.emitAll (Page.ofPolicy policy "") (withSpaces .whitespace events) :=
  Spaced.emitAll_inner events _ _

theorem after_behind (policy : Policy) {events : List Event} (rests : Rests events) :
    Behind (after policy events).destination (Page.ofPolicy policy "") (after policy events) := by
  have measured : (Page.ofPolicy policy "").Measured := ⟨rfl, rfl⟩
  have line := (measured.emitAll_line (withSpaces .whitespace events)).2
  rw [after_eq]
  refine ⟨String.append_empty.symm, rfl, (measured.emitAll _).accepted, (measured.emitAll_line _).1,
    emitAll_lineEnding rfl _, ?_, ?_⟩
  · exact emitAll_level _ _ (rests.balanced.withSpaces .whitespace _)
  · exact line.trans ((lineStartAfterEvents_withSpaces events _ _).trans rests.line)

theorem after_append (policy : Policy) {left : List Event} (rests : Rests left) (right : List Event) :
    (after policy (left ++ right)).destination =
      (after policy left).destination ++ (after policy right).destination := by
  have behind := (after_behind policy rests).emitAll (withSpaces .whitespace right)
  rw [after_eq policy (left ++ right), rests.withSpaces_append, Writer.emitAll, List.foldl_append,
    after_eq policy right]
  rw [after_eq policy left] at behind ⊢
  exact behind.text

end Page

theorem lineStartAfterSteps_append (atLineStart : Bool) (left right : List Step) :
    lineStartAfterSteps atLineStart (left ++ right) =
      lineStartAfterSteps (lineStartAfterSteps atLineStart left) right := by
  induction left generalizing atLineStart with
  | nil => rfl
  | cons step rest ih => cases step <;> exact ih _

theorem lineStartAfterEvents_settled (atLineStart : Bool) (steps : List Step) :
    lineStartAfterEvents atLineStart (settled atLineStart steps) = lineStartAfterSteps atLineStart steps := by
  induction steps generalizing atLineStart with
  | nil => rfl
  | cons step rest ih =>
      cases step with
      | gap => cases atLineStart <;> exact ih _
      | freshLine => cases atLineStart <;> exact ih _
      | _ => exact ih _

namespace Layout

def EndsLine (pieces : List Piece) : Prop :=
  ∃ before last, pieces = before ++ [.event last] ∧ ∀ atLineStart, last.lineStartAfter atLineStart = true

namespace EndsLine

theorem newline : EndsLine newline := ⟨[], .newline, rfl, fun _ => rfl⟩

theorem after {pieces : List Piece} (ends : EndsLine pieces) (before : List Piece) :
    EndsLine (before ++ pieces) := by
  obtain ⟨earlier, last, rfl, line⟩ := ends
  exact ⟨before ++ earlier, last, (List.append_assoc ..).symm, line⟩

theorem afterBody (trailingSemicolon : Bool) : EndsLine (afterBody trailingSemicolon) := newline.after _

theorem member (policy : Policy) (member : NamespaceMember) (here : List Nat) (tree : SyntaxTree) :
    EndsLine (plan policy [⟨Node.ofNamespaceMember member, here⟩, ⟨.syntaxTree tree, []⟩]
      (Node.ofNamespaceMember member)) := by
  have semicolon (node : Node) : EndsLine (semicolon [⟨node, here⟩, ⟨.syntaxTree tree, []⟩]) :=
    newline.after _
  cases member with
  | namespaceDeclaration declaration => exact (afterBody _).after _
  | usingDeclaration declaration => exact (semicolon _).after _
  | usingAlias declaration => exact (semicolon _).after _
  | externAlias declaration => exact (semicolon _).after _
  | type declaration => exact (afterBody _).after _
  | delegate declaration => exact (semicolon _).after _
  | attributeSection found => exact newline.after _
  | comment found =>
      have whole (node : Node) : plan policy [⟨node, here⟩, ⟨.syntaxTree tree, []⟩] (.comment found) =
          [.event (.comment found.kind found.content)] ++ if found.kind.endsLine then []
            else Layout.newline := rfl
      rw [Node.ofNamespaceMember, whole]
      cases ends : found.kind.endsLine with
      | false => exact newline.after _
      | true => exact ⟨[], .comment found.kind found.content, rfl, fun _ => ends⟩
  | directive found => exact ⟨[], _, rfl, fun _ => rfl⟩

end EndsLine

theorem steps_line {policy : Policy} {node : Node} {address : List Nat} {above : Frames}
    (ends : EndsLine (plan policy (⟨node, address⟩ :: above) node)) (atLineStart : Bool) :
    lineStartAfterSteps atLineStart (steps policy node address above) = true := by
  obtain ⟨before, last, shape, line⟩ := ends
  rw [steps_eq, shape, partSteps_append, lineStartAfterSteps, lineStartAfterSteps, lineStartAfterSteps_append,
    lineStartAfterSteps_append]
  exact line _

def memberSteps (policy : Policy) (members : List NamespaceMember) : List Step :=
  unframed (partSteps policy (.syntaxTree ⟨members⟩) [] [] 0 (namespaceMembers policy members))

theorem firstFault?_memberSteps (policy : Policy) (members : List NamespaceMember) :
    firstFault? (memberSteps policy members) = firstFault? (trace policy (.syntaxTree ⟨members⟩)) :=
  (firstFault?_unframed _).trans (firstFault?_steps policy (.syntaxTree ⟨members⟩) [] []).symm

theorem settled_memberSteps (policy : Policy) (members : List NamespaceMember) :
    settled true (trace policy (.syntaxTree ⟨members⟩)) =
      .enter (.syntaxTree ⟨members⟩) ::
        (settled true (memberSteps policy members) ++ [.leave (.syntaxTree ⟨members⟩)]) := by
  rw [memberSteps, settled_unframed]
  exact settled_steps policy (.syntaxTree ⟨members⟩) [] [] true

theorem mem_namespaceMembers {policy : Policy} {members : List NamespaceMember} {piece : Piece}
    (member : piece ∈ namespaceMembers policy members) :
    piece = .event .newline ∨ ∃ found, piece = .child (Node.ofNamespaceMember found) := by
  induction members with
  | nil => cases member
  | cons first rest ih =>
      rw [namespaceMembers, List.mem_append, List.mem_append] at member
      rcases member with (visited | blank) | later
      · exact .inr ⟨_, List.mem_singleton.mp visited⟩
      · split at blank
        · exact .inl (List.eq_of_mem_replicate blank)
        · cases blank
      · exact ih later

theorem pieceSteps_line (policy : Policy) (members : List NamespaceMember) (slot : Nat)
    (member : NamespaceMember) :
    lineStartAfterSteps true
      (pieceSteps policy (.syntaxTree ⟨members⟩) [] [] slot (.child (Node.ofNamespaceMember member))) =
        true := by
  rw [pieceSteps]
  split
  · exact steps_line (EndsLine.member policy member _ _) true
  · rfl

theorem partSteps_line (policy : Policy) (members : List NamespaceMember) (slot : Nat) {pieces : List Piece}
    (only : ∀ piece ∈ pieces, piece = .event .newline ∨
      ∃ found, piece = .child (Node.ofNamespaceMember found)) :
    lineStartAfterSteps true (partSteps policy (.syntaxTree ⟨members⟩) [] [] slot pieces) = true := by
  induction pieces generalizing slot with
  | nil => rfl
  | cons piece rest ih =>
      have later (slot : Nat) := ih slot fun piece member => only piece (List.mem_cons_of_mem _ member)
      rw [partSteps_cons, lineStartAfterSteps_append]
      rcases only piece List.mem_cons_self with rfl | ⟨found, rfl⟩
      · exact later _
      · rw [pieceSteps_line]
        exact later _

theorem memberSteps_line (policy : Policy) (members : List NamespaceMember) :
    lineStartAfterSteps true (memberSteps policy members) = true := by
  rw [memberSteps, lineStartAfterSteps_unframed]
  exact partSteps_line policy members 0 fun _ member => mem_namespaceMembers member

theorem memberSteps_rests (policy : Policy) (members : List NamespaceMember) :
    Rests (settled true (memberSteps policy members)) where
  balanced := by
    rw [memberSteps, settled_unframed]
    exact body_balanced policy (.syntaxTree ⟨members⟩) [] [] true
  line := by rw [lineStartAfterEvents_settled, memberSteps_line]

theorem slots_append (left right : List Piece) : slots (left ++ right) = slots left + slots right :=
  List.countP_append

theorem slots_newlines (count : Nat) : slots (newlines count) = 0 :=
  slots_of_layout (List.all_eq_true.mpr fun piece blank => by rw [List.eq_of_mem_replicate blank]; rfl)

theorem slots_namespaceMembers (policy : Policy) (members : List NamespaceMember) :
    slots (namespaceMembers policy members) = members.length := by
  induction members with
  | nil => rfl
  | cons member rest ih =>
      have visited : slots (visit (Node.ofNamespaceMember member)) = 1 := rfl
      have blank : slots (if isUsing member && rest.head?.any fun next => !isUsing next then
          newlines policy.blankLines.afterUsings else []) = 0 := by
        split
        · exact slots_newlines _
        · rfl
      rw [namespaceMembers, slots_append, slots_append, visited, blank, ih, List.length_cons]
      omega

/-- The blank lines between two parts of a file: those after using directives, if the first part ends in one
and the second goes on with something else. -/
def blankLinesBetween (policy : Policy) (first second : List NamespaceMember) : Nat :=
  if first.getLast?.any isUsing && second.head?.any fun next => !isUsing next
    then policy.blankLines.afterUsings else 0

theorem namespaceMembers_append (policy : Policy) (first second : List NamespaceMember) :
    namespaceMembers policy (first ++ second) =
      namespaceMembers policy first ++ newlines (blankLinesBetween policy first second) ++
        namespaceMembers policy second := by
  induction first with
  | nil => rfl
  | cons member rest ih =>
      rw [List.cons_append, namespaceMembers, namespaceMembers, ih]
      -- Only after the last member does what follows come from the second list.
      cases rest with
      | nil =>
          have between : newlines (blankLinesBetween policy [member] second) =
              if isUsing member && second.head?.any fun next => !isUsing next then
                newlines policy.blankLines.afterUsings
              else [] := by
            rw [blankLinesBetween]
            split <;> simp_all [newlines]
          rw [between]
          simp [namespaceMembers, blankLinesBetween, newlines]
      | cons next rest =>
          have same : blankLinesBetween policy (member :: next :: rest) second =
              blankLinesBetween policy (next :: rest) second := by
            rw [blankLinesBetween, blankLinesBetween, List.getLast?_cons_cons]
          have ahead : (next :: rest ++ second).head? = (next :: rest).head? := rfl
          rw [same, ahead]
          simp only [List.append_assoc]

theorem partSteps_members {policy : Policy} {members : List NamespaceMember}
    (sound : firstFault? (memberSteps policy members) = none) (before after : List NamespaceMember) :
    unframed (partSteps policy (.syntaxTree ⟨before ++ (members ++ after)⟩) [] [] before.length
        (namespaceMembers policy members)) =
      memberSteps policy members := by
  -- A slot that is missing among the members alone would be a fault there.
  rw [memberSteps, firstFault?_unframed] at sound
  refine partSteps_alike (fun index found _ fine => ?_) sound
  by_cases present : 0 + index < (Node.syntaxTree ⟨members⟩).children.length
  · have present' :
        before.length + index < (Node.syntaxTree ⟨before ++ (members ++ after)⟩).children.length := by
      simp only [Node.children, List.length_map, List.length_append] at present ⊢
      omega
    simp only [pieceSteps, if_pos present] at fine
    simp only [pieceSteps, if_pos present, if_pos present']
    exact steps_alike fine _ _ (.member _ _ _ _ _)
  · rw [pieceSteps, if_neg present] at fine
    simp at fine

theorem partSteps_newlines (policy : Policy) (node : Node) (slot count : Nat) :
    partSteps policy node [] [] slot (newlines count) = List.replicate count (.event .newline) := by
  induction count generalizing slot with
  | zero => rfl
  | succ count ih =>
      rw [newlines, List.replicate_succ, partSteps_cons]
      exact congrArg _ (ih _)

theorem memberSteps_append {policy : Policy} {first second : List NamespaceMember}
    (sound : firstFault? (memberSteps policy first) = none)
    (sound' : firstFault? (memberSteps policy second) = none) :
    memberSteps policy (first ++ second) =
      memberSteps policy first ++ List.replicate (blankLinesBetween policy first second) (.event .newline) ++
        memberSteps policy second := by
  have left := partSteps_members sound [] second
  have right := partSteps_members sound' first []
  rw [List.nil_append, List.length_nil] at left
  rw [List.append_nil] at right
  have blank (count : Nat) : unframed (List.replicate count (.event .newline)) =
      List.replicate count (.event .newline) :=
    List.filter_eq_self.mpr fun step member => by rw [List.eq_of_mem_replicate member]; rfl
  rw [memberSteps, namespaceMembers_append, partSteps_append, partSteps_append, partSteps_newlines,
    unframed_append, unframed_append, blank, left, slots_append, slots_newlines, slots_namespaceMembers,
    Nat.add_zero, Nat.zero_add, right]

end Layout

theorem settled_newlines (count : Nat) :
    firstFault? (List.replicate count (.event .newline)) = none ∧
      settled true (List.replicate count (.event .newline)) = List.replicate count .newline ∧
      lineStartAfterSteps true (List.replicate count (.event .newline)) = true := by
  induction count with
  | zero => exact ⟨rfl, rfl, rfl⟩
  | succ count ih =>
      obtain ⟨sound, found, line⟩ := ih
      exact ⟨sound, congrArg (Event.newline :: ·) found, line⟩

namespace Page

theorem after_newlines (policy : Policy) (count : Nat) :
    (after policy (List.replicate count .newline)).destination =
      String.join (List.replicate count policy.lineEnding.text) := by
  induction count with
  | zero => rfl
  | succ count ih =>
      have one : (after policy [.newline]).destination = policy.lineEnding.text := by
        have accepted : (Page.ofPolicy policy "").failed = false := rfl
        obtain ⟨wrote, _⟩ := emit_wrote accepted .newline
        exact wrote.text.trans (String.empty_append ..)
      rw [List.replicate_succ, ← List.singleton_append, after_append policy Rests.newline, ih, one,
        List.replicate_succ, String.join_cons]

theorem after_visit (policy : Policy) (node : Node) {events : List Event} (rests : Rests events) :
    (after policy (.enter node :: (events ++ [.leave node]))).destination =
      (after policy events).destination := by
  have entered : (after policy [.enter node]).destination = "" := rfl
  have left : (after policy [.leave node]).destination = "" := rfl
  rw [← List.singleton_append, after_append policy (Rests.enter node), after_append policy rests,
    entered, left, String.append_empty, String.empty_append]

end Page

theorem print_eq_ok_iff {policy : Policy} {members : List NamespaceMember} {text : String} :
    print policy ⟨members⟩ = .ok text ↔
      firstFault? (Layout.memberSteps policy members) = none ∧
        (Page.after policy (settled true (Layout.memberSteps policy members))).destination = text := by
  have run := events_eq policy (.syntaxTree ⟨members⟩)
  rw [← Layout.firstFault?_memberSteps, Layout.settled_memberSteps] at run
  cases fault : firstFault? (Layout.memberSteps policy members) with
  | some first =>
      rw [fault] at run
      rw [print, printNode_of_error run]
      simp
  | none =>
      rw [fault] at run
      rw [print, printNode_of_events run, Page.after_visit policy _ (Layout.memberSteps_rests policy members)]
      simp

/-- Where a file is cut in two between members, its text is the texts of both parts, with the blank lines
that follow using directives between them. -/
theorem print_append {policy : Policy} {first second : List NamespaceMember} {left right : String}
    (printed : print policy ⟨first⟩ = .ok left) (printed' : print policy ⟨second⟩ = .ok right) :
    print policy ⟨first ++ second⟩ =
      .ok (left ++ String.join
        (List.replicate (Layout.blankLinesBetween policy first second) policy.lineEnding.text) ++
        right) := by
  obtain ⟨sound, rfl⟩ := print_eq_ok_iff.mp printed
  obtain ⟨sound', rfl⟩ := print_eq_ok_iff.mp printed'
  obtain ⟨blank, breaks, line⟩ := settled_newlines (Layout.blankLinesBetween policy first second)
  have rests := Layout.memberSteps_rests policy first
  refine print_eq_ok_iff.mpr ⟨?_, ?_⟩
  · rw [Layout.memberSteps_append sound sound', firstFault?_append, firstFault?_append, sound, blank, sound']
    rfl
  · rw [Layout.memberSteps_append sound sound', List.append_assoc, settled_append, settled_append,
      Layout.memberSteps_line, line, breaks, Page.after_append policy rests,
      Page.after_append policy (Rests.newlines _), Page.after_newlines, String.append_assoc]

def usingSystem : NamespaceMember := .usingDeclaration ⟨.simple ⟨"System", false, none⟩ []⟩

def emptyClass : NamespaceMember :=
  .type ⟨[], [], .classType, ⟨"C", false, none⟩, [], [], [], [], false, false⟩

theorem using_is_set_apart :
    print Policy.kr ⟨[usingSystem, usingSystem]⟩ = .ok "using System;\nusing System;\n" ∧
      print Policy.kr ⟨[emptyClass]⟩ = .ok "class C \x7b\n\x7d\n" ∧
      print Policy.kr ⟨[usingSystem, usingSystem, emptyClass]⟩ =
        .ok "using System;\nusing System;\n\nclass C \x7b\n\x7d\n" := by
  have left : print Policy.kr ⟨[usingSystem, usingSystem]⟩ = .ok "using System;\nusing System;\n" := by
    decide +kernel
  have right : print Policy.kr ⟨[emptyClass]⟩ = .ok "class C \x7b\n\x7d\n" := by decide +kernel
  exact ⟨left, right, print_append left right⟩

end CSharpLayout
