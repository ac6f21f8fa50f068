import CSharpLayout.Proofs.Bodies

/-! Lines. Members, accessors, sections and statements in a block begin and end at the start of a line, with
the blank lines of the policy between them, and a text that is not empty ends with a line break. -/

namespace CSharpLayout

namespace Page

def EndsLine (page : Page String) : Prop :=
  page.destination = "" ∨ ∃ front, page.destination = front ++ page.lineEnding

theorem Wrote.endsLine {page later : Page String} {front : String}
    (wrote : Wrote page (front ++ page.lineEnding) later) :
    later.EndsLine :=
  .inr ⟨page.destination ++ front, by rw [wrote.text, wrote.ending, String.append_assoc]⟩

theorem emit_endsLine {page : Page String} (accepted : page.failed = false)
    (ended : page.atLineStart = true → page.EndsLine) (event : Event)
    (line : (page.emit event).atLineStart = true) :
    (page.emit event).EndsLine := by
  obtain ⟨wrote, next⟩ := emit_wrote accepted event
  rw [next] at line
  cases event with
  | enter node => exact ended line
  | leave node => exact ended line
  | indent => exact ended line
  | unindent => exact ended line
  | newline =>
      have broken : Wrote page ("" ++ page.lineEnding) (page.emit .newline) := by simpa [added] using wrote
      exact broken.endsLine
  | directive kind argument => exact Wrote.endsLine wrote
  | comment kind content =>
      have ends : (Event.comment kind content).endsLine = true := line
      rw [added_token rfl rfl, ends, if_pos rfl] at wrote
      exact wrote.endsLine
  | _ => cases line

theorem emitAll_endsLine {page : Page String} (measured : page.Measured)
    (ended : page.atLineStart = true → page.EndsLine) (events : List Event)
    (line : (Writer.emitAll page events).atLineStart = true) : (Writer.emitAll page events).EndsLine := by
  induction events generalizing page with
  | nil => exact ended line
  | cons event rest ih => exact ih (measured.emit event) (emit_endsLine measured.accepted ended event) line

theorem emitAll_newlines {page : Page String} (measured : page.Measured) (count : Nat) :
    (Writer.emitAll page (List.replicate count .newline)).destination =
      page.destination ++ String.join (List.replicate count page.lineEnding) := by
  induction count generalizing page with
  | zero => exact String.append_empty.symm
  | succ count ih =>
      obtain ⟨wrote, _⟩ := emit_wrote measured.accepted .newline
      calc (Writer.emitAll (page.emit .newline) (List.replicate count .newline)).destination
          = (page.emit .newline).destination ++ String.join
            (List.replicate count (page.emit .newline).lineEnding) :=
            ih (measured.emit .newline)
        _ = page.destination ++ page.lineEnding ++ String.join (List.replicate count page.lineEnding) := by
            rw [wrote.text, wrote.ending]
            rfl
        _ = page.destination ++ String.join (List.replicate (count + 1) page.lineEnding) := by
            rw [List.replicate_succ, String.join_cons, String.append_assoc]

theorem after_endsLine {policy : Policy} {events : List Event}
    (line : (after policy events).atLineStart = true) :
    (after policy events).destination = "" ∨
      ∃ front, (after policy events).destination = front ++ policy.lineEnding.text := by
  have empty : (Page.ofPolicy policy "").Measured := ⟨rfl, rfl⟩
  rw [← after_lineEnding policy events]
  rw [after_eq] at line ⊢
  exact emitAll_endsLine empty (fun _ => .inl rfl) _ line

theorem after_append_newlines (policy : Policy) (events : List Event) (count : Nat) :
    (after policy (events ++ List.replicate count .newline)).destination =
      (after policy events).destination ++ String.join (List.replicate count policy.lineEnding.text) := by
  have layout : ∀ event ∈ List.replicate count Event.newline, event.isToken = false := fun event member => by
    rw [List.eq_of_mem_replicate member]
    rfl
  rw [after_layout policy events layout, emitAll_newlines (after_measured policy events), after_lineEnding]

end Page

namespace Node

section Trees

variable (tree : SyntaxTree)

@[simp] theorem ofType_ne_syntaxTree (found : TypeRef) : ofType found ≠ .syntaxTree tree := by
  cases found <;> simp [ofType]

@[simp] theorem ofExpression_ne_syntaxTree (found : Expression) : ofExpression found ≠ .syntaxTree tree := by
  cases found <;> simp [ofExpression]

@[simp] theorem ofStatement_ne_syntaxTree (found : Statement) : ofStatement found ≠ .syntaxTree tree := by
  cases found <;> simp [ofStatement]

@[simp] theorem ofNamespaceMember_ne_syntaxTree (found : NamespaceMember) :
    ofNamespaceMember found ≠ .syntaxTree tree := by
  cases found <;> simp [ofNamespaceMember]

@[simp] theorem ofTypeMember_ne_syntaxTree (found : TypeMember) : ofTypeMember found ≠ .syntaxTree tree := by
  cases found <;> simp [ofTypeMember]

end Trees

mutual

theorem syntaxTree_not_mem_embedded (tree : SyntaxTree) (found : Pattern) :
    .syntaxTree tree ∉ found.embedded := by
  cases found with
  | choice alternatives => exact syntaxTree_not_mem_items tree alternatives
  | named name child => exact syntaxTree_not_mem_item tree child
  | repeated least most child => exact syntaxTree_not_mem_item tree child
  | optional child => exact syntaxTree_not_mem_item tree child
  | _ => exact List.not_mem_nil

theorem syntaxTree_not_mem_item (tree : SyntaxTree) (item : PatternItem) :
    .syntaxTree tree ∉ item.embedded := by
  cases item with
  | pattern nested => exact syntaxTree_not_mem_embedded tree nested
  | value found => exact List.not_mem_nil
  | _ => simp [PatternItem.embedded, eq_comm]

theorem syntaxTree_not_mem_items (tree : SyntaxTree) (items : List PatternItem) :
    .syntaxTree tree ∉ embeddedInItems items := by
  cases items with
  | nil => exact List.not_mem_nil
  | cons item rest =>
      rw [embeddedInItems, List.mem_append]
      exact not_or.mpr ⟨syntaxTree_not_mem_item tree item, syntaxTree_not_mem_items tree rest⟩

end

theorem syntaxTree_not_mem_children (tree : SyntaxTree) (node : Node) : .syntaxTree tree ∉ node.children := by
  have swap (other : Node) : syntaxTree tree = other ↔ other = syntaxTree tree := eq_comm
  cases node with
  | statement found =>
      cases found with
      | usingResource resource body =>
          cases resource <;> simp [children, childrenOfStatement, ofUsingResource, swap]
      | _ => simp [children, childrenOfStatement, ofStatements, ofVariables, ofExpression?, ofBlock?, swap]
  | expression found =>
      cases found with
      | lambda isAsync parameters body =>
          cases body <;> simp [children, childrenOfExpression, ofLambdaBody, ofParameters, swap]
      | _ => simp [children, childrenOfExpression, ofTypes, ofExpressions, ofSpecifiers, ofParameters, swap]
  | type found => cases found <;> simp [children, childrenOfType, ofTypes, ofSpecifiers, swap]
  | queryClause clause => cases clause <;> simp [children, childrenOfClause, ofType?, swap]
  | documentationReference reference =>
      by_cases operator : reference.symbolKind = .operator <;>
        simp [children, operator, ofTypes, ofParameters, ofType?]
  | pattern found => exact syntaxTree_not_mem_embedded tree found
  | _ =>
      simp [children, ofTypes, ofExpressions, ofStatements, ofAttributes, ofParameters, ofTypeParameters,
        ofConstraints, ofVariables, ofAccessors, ofType?, ofExpression?, ofBlock?, swap]

/-- What has lines of its own ends them, except for enum members. -/
theorem ending_of_listed {node child : Node} (listed : child ∈ node.listed) (plain : child.kind ≠ .pattern) :
    child.kind ≠ .enumMember ∧ child.ending (some node) = some .start ∨
      child.kind = .enumMember ∧ child.ending (some node) = none := by
  unfold Node.listed at listed
  split at listed
  · obtain ⟨found, _, rfl⟩ := List.mem_map.mp listed
    cases found <;> exact .inl ⟨nofun, rfl⟩
  · obtain ⟨found, _, rfl⟩ := List.mem_map.mp listed
    cases found <;> exact .inl ⟨nofun, rfl⟩
  · obtain ⟨found, _, rfl⟩ := List.mem_map.mp listed
    cases found with
    | enumMember member => exact .inr ⟨rfl, rfl⟩
    | _ => exact .inl ⟨nofun, rfl⟩
  · obtain ⟨found, _, rfl⟩ := List.mem_map.mp listed
    exact .inl ⟨nofun, rfl⟩
  · obtain ⟨found, _, rfl⟩ := List.mem_map.mp listed
    exact .inl ⟨nofun, rfl⟩
  · obtain ⟨found, _, rfl⟩ := List.mem_map.mp listed
    exact .inl ⟨nofun, rfl⟩
  · obtain ⟨found, _, rfl⟩ := List.mem_map.mp listed
    exact .inl ⟨nofun, rfl⟩
  · obtain ⟨found, _, rfl⟩ := List.mem_map.mp listed
    exact .inl ⟨by cases found <;> nofun, ending_ofStatement rfl plain⟩
  · cases listed

theorem hasHeader_of_listed {node child : Node} (listed : child ∈ node.listed) : node.hasHeader = false := by
  cases node with
  | statement found =>
      cases found with
      | forLoop initializers condition iterators body => cases listed
      | usingResource resource body => cases listed
      | _ => rfl
  | _ => rfl

end Node

namespace Layout

section Parts

variable {policy : Policy} {node : Node} {address : List Nat} {above : Frames}

theorem settled_partSteps_newlines (atLineStart : Bool) (slot count : Nat) :
    settled atLineStart (partSteps policy node address above slot (newlines count)) =
      List.replicate count .newline := by
  induction count generalizing atLineStart with
  | zero => rfl
  | succ count ih => exact congrArg (Event.newline :: ·) (ih true)

theorem settled_partSteps_staysInLine {closing : List Piece} (inLine : closing.all Piece.staysInLine = true)
    (atLineStart : Bool) (slot : Nat) (rest : List Piece) :
    ∃ events later, (∀ event ∈ events, event.staysInLine = true) ∧
      settled atLineStart (partSteps policy node address above slot (closing ++ .event .newline :: rest)) =
        events ++ .newline :: later := by
  induction closing generalizing atLineStart with
  | nil => exact ⟨[], _, List.forall_mem_nil _, rfl⟩
  | cons piece closing ih =>
      obtain ⟨first, others⟩ := Bool.and_eq_true_iff.mp inLine
      cases piece with
      | event event =>
          obtain ⟨events, later, stays, shape⟩ := ih others (event.lineStartAfter atLineStart)
          refine ⟨event :: events, later, ?_, congrArg (event :: ·) shape⟩
          exact List.forall_mem_cons.mpr ⟨first, stays⟩
      | _ => cases first

theorem listing_located {front back before after : List Piece} {child : Node} (listed : child ∈ node.listed)
    (shape : before ++ (listing policy node ++ after) = front ++ .child child :: back)
    (ahead : ∀ child ∈ node.listed, .child child ∉ before) (behind : ∀ child, .child child ∉ after) :
    ∃ earlier later, front = before ++ earlier ∧ back = later ++ after ∧
      listing policy node = earlier ++ .child child :: later := by
  rcases append_cut shape with ⟨_, rfl, _⟩ | ⟨earlier, inside, rfl⟩
  · exact absurd (List.mem_append_right _ List.mem_cons_self) (ahead child listed)
  · rcases append_cut inside with ⟨later, cut, rfl⟩ | ⟨_, rfl, _⟩
    · exact ⟨earlier, later, rfl, rfl, cut⟩
    · exact absurd (List.mem_append_right _ List.mem_cons_self) (behind child)

end Parts

end Layout

/-- How a listed child stands on the page: it begins and ends at the start of a line, and before the next
child there are the blank lines of the policy and nothing else. The line of an enum member is ended by its
parent. -/
structure OwnLines (policy : Policy) (parent child : Node) (upTo through after : List Event) : Prop where
  begins : (Page.after policy upTo).atLineStart = true
  ends : child.kind ≠ .enumMember → (Page.after policy through).atLineStart = true
  ended : child.kind = .enumMember → ∃ closing later, after = closing ++ .newline :: later ∧
    ∀ event ∈ closing, event.staysInLine = true
  blank : parent.isEnum = false → ∀ between second later, after = between ++ .enter second :: later →
    (∀ event ∈ between, event.isBoundary = false) →
    (Page.after policy (through ++ between)).destination = (Page.after policy through).destination ++
      String.join (List.replicate (parent.blankLines policy child second) policy.lineEnding.text)

namespace Layout.PlannedVisit

variable {policy : Policy} {before upTo through after rest : List Event} {parent child : Node}
    {address : List Nat}
  {above : Frames} {front back : List Piece}

/-- A child that is entered behind another one with no other visit between them takes the next child piece. -/
theorem next (visit : PlannedVisit policy before parent child upTo through after address above
    front back rest)
    {between later : List Event} {second : Node} (split : after = between ++ .enter second :: later)
    (plain : ∀ event ∈ between, event.isBoundary = false) :
    ∃ gap more, back = gap ++ .child second :: more ∧ (∀ node, .child node ∉ gap) ∧
      between = settled (lineStartAfterEvents true through)
        (partSteps policy parent address above (slots front + 1) gap) := by
  have taken : (held back).map Prod.snd = parent.children.drop (slots front + 1) := by
    rw [← visit.taken, slots_eq_length, List.append_cons, List.drop_left' (by simp)]
  obtain ⟨gap, more, rfl, rfl, _⟩ :=
    partSteps_child visit.quiet (taken ▸ List.prefix_rfl) visit.backSound (visit.later.symm.trans split)
      (.of_plain plain)
  have sound := visit.backSound
  rw [partSteps_append, firstFault?_append, Option.or_eq_none_iff] at sound
  exact ⟨gap, more, rfl, childless_of_plain sound.1 plain, rfl⟩

theorem ownLines
    (visit : PlannedVisit policy before parent child upTo through after address above front back rest)
    (plain : parent.Every fun part => part.kind ≠ .pattern) (listed : child ∈ parent.listed)
    (opened : parent.opening = none ∨ parent.opening = some (marginAfter .start before)) :
    OwnLines policy parent child upTo through after := by
  have simple := Node.hasHeader_of_listed listed
  have children : ∀ child ∈ parent.children, child.kind ≠ .pattern := plain.children
  have ending := Node.ending_of_listed listed (children child visit.member)
  have fine := visit.fine
  obtain ⟨ahead, behind, whole, lined, opens, apart, bare⟩ :=
    plan_listing (List.ne_nil_of_mem listed) fine children
  obtain ⟨earlier, later, rfl, rfl, cut⟩ := listing_located listed (whole.symm.trans visit.shape) apart bare
  constructor
  · have began : pieceMargin (Node.ending (some parent)) parent.opening (ahead ++ earlier) = some .start := by
      rw [pieceMargin_append, opens, (lined.began cut 0).1]
    rw [Page.after_atLineStart, visit.margin_upTo plain simple opened began]
    rfl
  · intro own
    rcases ending with ⟨_, ending⟩ | ⟨enumerated, _⟩
    · rw [Page.after_atLineStart, visit.margin_through plain simple ending]
      rfl
    · exact absurd enumerated own
  · intro enumerated
    rcases ending with ⟨own, _⟩ | ⟨_, ending⟩
    · exact absurd enumerated own
    · obtain ⟨closing, more, rfl, inLine⟩ := lined.broken cut (by rw [ending]; nofun)
      obtain ⟨events, tail, stays, shape⟩ :=
        settled_partSteps_staysInLine inLine (lineStartAfterEvents true through)
        (slots (ahead ++ earlier) + 1) (more ++ behind)
      refine ⟨events, tail ++ .leave parent :: rest, ?_, stays⟩
      rw [visit.later, List.append_assoc, List.cons_append, shape, List.append_assoc, List.cons_append]
  · intro noEnum between second later' split calm
    obtain ⟨gap, more, shape, childless, rfl⟩ := visit.next split calm
    rcases append_cut shape with ⟨inner, rfl, _⟩ | ⟨_, rfl, _⟩
    · have sound : flawed (listing policy parent) = false := by
        rw [whole, flawed_append, flawed_append, Bool.or_eq_false_iff, Bool.or_eq_false_iff] at fine
        exact fine.2.1
      rw [listing_gap sound noEnum cut childless, settled_partSteps_newlines, Page.after_append_newlines]
    · exact absurd (List.mem_append_right _ List.mem_cons_self) (bare second)

end Layout.PlannedVisit

/-- A file without placeholders is printed in whole lines. -/
theorem lines_are_whole {policy : Policy} {tree : SyntaxTree} {text : String}
    (plain : (Node.syntaxTree tree).Every fun part => part.kind ≠ .pattern)
    (printed : print policy tree = .ok text) :
    (text = "" ∨ ∃ front, text = front ++ policy.lineEnding.text) ∧
      ∃ found, events policy (.syntaxTree tree) = .ok found ∧ (Page.after policy found).destination = text ∧
        ∀ before parent child upTo through after, ChildVisit found before parent child upTo through after →
          child ∈ parent.listed → OwnLines policy parent child upTo through after := by
  obtain ⟨found, run, _⟩ := print_events printed
  have same := printed
  rw [print, printNode_of_events run] at same
  refine ⟨?_, found, run, Except.ok.inj same, ?_⟩
  · obtain ⟨_, rfl⟩ := print_eq_ok_iff.mp printed
    refine Page.after_endsLine ?_
    rw [Page.after_atLineStart, Margin.atStart_marginAfter]
    exact (Layout.memberSteps_rests policy tree.members).line
  · intro before parent child upTo through after visit listed
    obtain ⟨later, whole⟩ := visit.whole_eq
    obtain ⟨address, above, rest, plain', origin, visited⟩ := events_visited plain run whole
    obtain ⟨front, back, planned⟩ := visit.planned whole visited
    refine planned.ownLines plain' listed ?_
    rcases origin with ⟨rfl, rfl⟩ | ⟨node, member⟩
    · exact .inr rfl
    · left
      cases parent with
      | syntaxTree inner => exact absurd member (Node.syntaxTree_not_mem_children inner node)
      | _ => rfl

def membersApart : SyntaxTree :=
  ⟨[usingSystem,
    .type ⟨[], [], .classType, ⟨"C", false, none⟩, [], [], [],
      [.comment ⟨.singleLine, " colours"⟩,
        .type ⟨[], [], .enumType, ⟨"E", false, none⟩, [], [], [],
          [.enumMember ⟨[], [], ⟨"Red", false, none⟩, none⟩,
            .enumMember ⟨[], [], ⟨"Blue", false, none⟩, none⟩], false,
          false⟩,
        .destructor ⟨[], [], ⟨"C", false, none⟩, some ⟨[.empty, .breaks]⟩⟩], false, false⟩]⟩

def membersApartText : String :=
  "using System;\n\nclass C \x7b\n\t// colours\n\tenum E \x7b\n\t\tRed,\n\t\tBlue\n\t\x7d\n" ++
    "\n\t~C() \x7b\n\t\t;\n\t\tbreak;\n\t\x7d\n\x7d\n"

theorem lines_of_membersApart :
    (Node.syntaxTree membersApart).Every (fun part => part.kind ≠ .pattern) ∧
      print Policy.kr membersApart = .ok membersApartText ∧
      ∃ found, events Policy.kr (.syntaxTree membersApart) = .ok found ∧
        ∀ before parent child upTo through after, ChildVisit found before parent child upTo through after →
          child ∈ parent.listed → OwnLines Policy.kr parent child upTo through after := by
  have plain : (Node.syntaxTree membersApart).Every fun part => part.kind ≠ .pattern := by decide +kernel
  have printed : print Policy.kr membersApart = .ok membersApartText := by decide +kernel
  obtain ⟨_, found, run, _, lines⟩ := lines_are_whole plain printed
  exact ⟨plain, printed, found, run, lines⟩

end CSharpLayout
