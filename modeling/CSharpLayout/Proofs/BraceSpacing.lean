import Mathlib.Data.List.Induction
import CSharpLayout.Proofs.BlockMargins
import CSharpLayout.Proofs.BraceStyles

/-! Spaces before opening braces. A brace that stays in the line of its header brings a space of its own, so
exactly one space is before it if none was written there already: always before a body, unless the last
constraint of its header lists no type, and before an initializer depending on what it is the value of. -/

namespace CSharpLayout

namespace Page

def EndsSpaced (policy : Policy) (events : List Event) (spaces : Nat) : Prop :=
  ∃ line token gap, events = line ++ token :: gap ∧ token.isToken = true ∧
    (∀ event ∈ gap, event.isToken = false) ∧
    (after policy events).destination =
      (after policy (line ++ [token])).destination ++ String.ofList (List.replicate spaces ' ')

variable {policy : Policy} {events : List Event} {last : Event} {spaces : Nat}

theorem EndsSpaced.unique {other : Nat} (ends : EndsSpaced policy events spaces)
    (ends' : EndsSpaced policy events other) :
    spaces = other := by
  obtain ⟨line, token, gap, rfl, own, silent, text⟩ := ends
  obtain ⟨line', token', gap', split, own', silent', text'⟩ := ends'
  have noToken {event : Event} {rest : List Event} (own : event.isToken = true)
      (silent : ∀ other ∈ rest, other.isToken = false) : event ∉ rest := fun member => by
    rw [silent event member] at own
    cases own
  -- the last token of the events is in one place only
  have same : line = line' ∧ token = token' := by
    rcases append_cut split with ⟨rest, _, rfl⟩ | ⟨start, cut, rfl⟩
    · exact absurd (List.mem_append_right _ List.mem_cons_self) (noToken own silent')
    · cases start with
      | nil => exact ⟨(List.append_nil _).symm, (List.cons.inj cut).1⟩
      | cons first start =>
          obtain ⟨_, rfl⟩ := List.cons.inj cut
          exact absurd (List.mem_append_right _ List.mem_cons_self) (noToken own' silent)
  obtain ⟨rfl, rfl⟩ := same
  have behind := congrArg String.toList (text.symm.trans text')
  simp only [String.toList_append, String.toList_ofList, List.append_cancel_left_eq] at behind
  simpa using congrArg List.length behind

theorem EndsSpaced.token (policy : Policy) (events : List Event) (own : last.isToken = true) :
    EndsSpaced policy (events ++ [last]) 0 :=
  ⟨events, last, [], rfl, own, List.forall_mem_nil _, by simp⟩

theorem EndsSpaced.followed (ends : EndsSpaced policy events spaces) (layout : last.isToken = false)
    (more : Nat) (written : (after policy (events ++ [last])).destination =
      (after policy events).destination ++ String.ofList (List.replicate more ' ')) :
    EndsSpaced policy (events ++ [last]) (spaces + more) := by
  obtain ⟨line, token, gap, rfl, own, silent, text⟩ := ends
  refine ⟨line, token, gap ++ [last], by simp, own, ?_, ?_⟩
  · intro event member
    rcases List.mem_append.mp member with inGap | isLast
    · exact silent event inGap
    · rwa [List.mem_singleton.mp isLast]
  · rw [written, text, String.append_assoc, ← String.ofList_append, ← List.replicate_add]

theorem after_silent (silent : last.writes = false) :
    (after policy (events ++ [last])).destination =
      (after policy events).destination ++ String.ofList (List.replicate 0 ' ') := by
  have layout : last.isToken = false := (Bool.or_eq_false_iff.mp silent).1
  have added : (after policy events).added last = "" := by
    cases last with
    | enter node => rfl
    | leave node => rfl
    | indent => rfl
    | unindent => rfl
    | _ => cases silent
  rw [after_layout policy events (by simpa using layout)]
  exact (emit_wrote (after_measured policy events).accepted last).1.text.trans (congrArg _ added)

theorem endsSpaced (policy : Policy) {events : List Event} {spaces : Nat}
    (margin : marginAfter .start events = ⟨true, spaces⟩) : EndsSpaced policy events spaces := by
  -- from the end: a token begins the count anew, a space adds one, and only a line break would lose it
  induction events using List.reverseRecOn generalizing spaces with
  | nil => cases margin
  | append_singleton events last ih =>
      rw [marginAfter_append] at margin
      change last.marginAfter (marginAfter .start events) = _ at margin
      cases last with
      | enter node => exact (ih margin).followed rfl 0 (after_silent rfl)
      | leave node => exact (ih margin).followed rfl 0 (after_silent rfl)
      | indent => exact (ih margin).followed rfl 0 (after_silent rfl)
      | unindent => exact (ih margin).followed rfl 0 (after_silent rfl)
      | newline => cases margin
      | directive kind argument => cases margin
      | space =>
          generalize reached : marginAfter .start events = found at margin
          obtain ⟨written, before⟩ := found
          obtain ⟨rfl, rfl⟩ := Margin.mk.inj margin
          have opened : (after policy events).atLineStart = false := by
            rw [after_atLineStart, reached]
            rfl
          exact (ih reached).followed rfl 1 (after_space_open opened)
      | comment kind content =>
          cases ends : kind.endsLine with
          | true => simp [Event.marginAfter, ends, Margin.start] at margin
          | false =>
              obtain rfl : 0 = spaces := by simpa [Event.marginAfter, ends, Margin.token] using margin
              exact .token policy events rfl
      | _ =>
          cases margin
          exact .token policy events rfl

end Page

namespace Node

def isInitializer : Node → Bool
  | .arrayInitializer _ => true
  | _ => false

end Node

namespace Layout

section Headings

variable {policy : Policy} {frames : Frames} {node : Node} {found : BracedPlan}

theorem heading_of_initializer {initializer : ArrayInitializer}
    (shape : bracedPlan? policy frames (.arrayInitializer initializer) = some found) :
    found.heading = [] := by
  simp only [bracedPlan?] at shape
  split at shape
  · cases shape
  · cases shape
    rfl

/-- The heading of a body ends with its last token, or with the space of an empty constraint. -/
theorem heading_margin (shape : bracedPlan? policy frames node = some found)
    (body : node.isInitializer = false) (plain : ∀ child ∈ node.children, child.kind ≠ .pattern)
    (parent : Option Node) :
    (∃ inner, node = .block inner) ∧ found.heading = [] ∨
      Settles (Node.ending (some node)) ⟨true, node.headerSpaces parent⟩ found.heading := by
  cases node with
  | block inner =>
      cases shape
      exact .inl ⟨⟨inner, rfl⟩, rfl⟩
  | arrayInitializer initializer => cases body
  | namespaceDeclaration declaration =>
      cases shape
      exact .inr ((Settles.visit (Node.ending_ofType (plain _ List.mem_cons_self))).after _)
  | typeDeclaration declaration =>
      cases shape
      have types : ∀ node ∈ Node.ofTypes declaration.baseTypes,
          node.ending (some (.typeDeclaration declaration)) = some .token :=
        Node.ending_ofTypes fun node member => plain node (by simp [Node.children, member])
      have bases : pieceMargin (Node.ending (some (.typeDeclaration declaration))) (some .token)
          (if declaration.baseTypes.isEmpty then []
            else afterColon policy (Node.ofTypes declaration.baseTypes)) =
            some .token := by
        split
        · rfl
        next listed =>
          exact (Settles.commaSeparated policy types (by simpa [Node.ofTypes] using listed)).after _ _
      refine .inr (Settles.followed
        (Settles.followed (Settles.followed ((Settles.identifier _ _ _).after _) ?_) bases) ?_)
      · exact pieceMargin_chevronList _ _
      · exact pieceMargin_constraints _ _
  | property declaration =>
      cases shape
      exact .inr ((Settles.identifier _ _ _).after _)
  | indexer declaration =>
      cases shape
      exact .inr ((Settles.inBrackets _ _).after _)
  | customEvent declaration =>
      cases shape
      exact .inr ((Settles.identifier _ _ _).after _)
  | statement inner =>
      cases inner with
      | switch operand sections =>
          cases shape
          exact .inr ((Settles.inParentheses _ _).after _)
      | _ => cases shape
  | expression inner =>
      cases inner with
      | anonymousTypeCreate initializers =>
          cases shape
          exact .inr (.word _)
      | _ => cases shape
  | _ => cases shape

end Headings

end Layout

namespace Node

def valueSpace? (policy : Policy) : Node → Option Bool
  | .variableInitializer _ => some (policy.spacing .aroundAssignment)
  | .enumMember _ => some (policy.spacing .aroundAssignment)
  | .parameter _ => some (policy.spacing .aroundAssignment)
  | .expression (.assignment _ _ _) => some (policy.spacing .aroundAssignment)
  | .expression (.named _ _) => some true
  | .expression (.objectCreate _ _ _ (some _)) => some false
  | .expression (.arrayCreate _ _ _ (some _)) => some false
  | _ => none

theorem hasHeader_of_value {policy : Policy} {parent : Node} {spaced : Bool}
    (value : parent.valueSpace? policy = some spaced) : parent.hasHeader = false := by
  unfold valueSpace? at value
  split at value
  next => rfl
  next => rfl
  next => rfl
  next => rfl
  next => rfl
  next => rfl
  next => rfl
  next => cases value

variable {initializer : ArrayInitializer}

@[simp] theorem arrayInitializer_ne_ofType (type : TypeRef) :
    .arrayInitializer initializer ≠ ofType type := by
  cases type <;> simp [ofType]

end Node

namespace Layout

section Values

variable {policy : Policy} {frames : Frames} {initializer : ArrayInitializer} {front back ahead : List Piece}

theorem last_visit {node child : Node} (split : ahead ++ visit node = front ++ .child child :: back)
    (last : ∀ node, .child node ∉ back) : front = ahead := by
  rcases List.eq_nil_or_concat' back with rfl | ⟨others, piece, rfl⟩
  · exact (List.append_inj_left' split rfl).symm
  · have cut : ahead ++ [.child node] = (front ++ .child child :: others) ++ [piece] := by
      simpa [visit] using split
    have same := List.append_inj_right' cut rfl
    cases same
    exact absurd (by simp) (last node)

theorem Settles.around {ends : Node → Option Margin} (spaced : Bool) (role : TokenRole) (text : String) :
    Settles ends ⟨true, if spaced then 1 else 0⟩ (around spaced role text) := by
  intro margin
  cases spaced <;> rfl

theorem Settles.assigned {ends : Node → Option Margin} {value : Option Expression} {child : Node}
    (given : value ≠ none) (shape : ahead ++ assigned policy value = front ++ .child child :: back)
    (last : ∀ node, .child node ∉ back) :
    Settles ends ⟨true, if policy.spacing .aroundAssignment then 1 else 0⟩ front := by
  cases value with
  | none => exact absurd rfl given
  | some operand =>
      rw [Layout.assigned, ← List.append_assoc] at shape
      rw [last_visit shape last]
      exact (Settles.around _ _ _).after _

/-- The margin before an initializer that its parent ends with. -/
theorem Settles.value {parent : Node} {spaced : Bool} (value : parent.valueSpace? policy = some spaced)
    (shape : Layout.plan policy frames parent = front ++ .child (.arrayInitializer initializer) :: back)
    (last : ∀ node, .child node ∉ back) (member : .arrayInitializer initializer ∈ parent.children)
    (plain : ∀ child ∈ parent.children, child.kind ≠ .pattern) :
    Settles (Node.ending (some parent)) ⟨true, if spaced then 1 else 0⟩ front := by
  unfold Node.valueSpace? at value
  split at value
  next found =>
      cases value
      refine .assigned (fun missing => ?_) shape last
      simp [Node.children, missing, Node.ofExpression?] at member
  next found =>
      cases value
      refine .assigned (fun missing => ?_) shape last
      simp [Node.children, missing, Node.ofExpression?, Node.ofAttributes] at member
  next found =>
      cases value
      refine .assigned (fun missing => ?_) shape last
      simp [Node.children, missing, Node.ofExpression?, Node.ofAttributes, Node.ofType?, eq_comm] at member
  next =>
      cases value
      rw [last_visit shape last]
      exact (Settles.around _ _ _).after _
  next =>
      cases value
      rw [last_visit shape last]
      exact (Settles.around _ _ _).after _
  next createdType arguments explicitParentheses given =>
      cases value
      rw [last_visit shape last]
      have type : (Node.ofType createdType).ending (some (.expression (.objectCreate createdType arguments
          explicitParentheses (some given)))) = some .token := Node.ending_ofType (plain _ List.mem_cons_self)
      refine Settles.followed ((Settles.visit type).after _) ?_
      split
      · exact (Settles.inParentheses _ _).after _ _
      · rfl
  next elementType arguments additionalSpecifiers given =>
      cases value
      rw [last_visit shape last]
      have type : (Node.ofType elementType).ending (some (.expression (.arrayCreate elementType arguments
          additionalSpecifiers (some given)))) = some .token :=
        Node.ending_ofType (plain _ List.mem_cons_self)
      refine Settles.followed (Settles.followed ((Settles.visit type).after _) (?_ : _ = some .token)) ?_
      · split
        · rfl
        · exact Settles.inBrackets _ _ _
      · refine pieceMargin_visitAll fun node member => ?_
        obtain ⟨specifier, _, rfl⟩ := List.mem_map.mp member
        rfl
  next => cases value

theorem initializer_margin {root parent : Node} {found before later inside more : List Event} {spaced : Bool}
    (plain : root.Every fun part => part.kind ≠ .pattern) (printed : events policy root = .ok found)
    (split : found = before ++ .enter (.arrayInitializer initializer) :: later)
    (below : .arrayInitializer initializer ≠ root) (opened : (openAfter [] before).head? = some parent)
    (value : parent.valueSpace? policy = some spaced)
    (ends : later = inside ++ .leave (.arrayInitializer initializer) :: .leave parent :: more)
    (nested : WellNested inside) : marginAfter .start before = ⟨true, if spaced then 1 else 0⟩ := by
  obtain ⟨outer, parent', _, after, _, _, front, back, _, every, around, ⟨body, written, complete⟩, visit⟩ :=
    events_inParent plain printed split below
  rw [around] at opened
  cases opened
  rw [written] at ends
  -- nothing but the end of the parent follows, so the initializer is the last child in its plan
  obtain rfl := complete.unique nested ends
  have last := visit.last (List.cons.inj (List.append_cancel_left ends)).2
  have settles := Settles.value value visit.shape last visit.member every.children
  exact visit.margin_upTo every (Node.hasHeader_of_value value) (.inl rfl) (settles none)

end Values

end Layout

namespace Node

def braces? (policy : Policy) (opened : List Node) : Node → Option BraceStyle
  | .arrayInitializer initializer =>
      if Layout.omitsBraces ((.arrayInitializer initializer :: opened).map fun node => ⟨node, []⟩)
          initializer
      then none
      else some (Layout.initializerBraces policy)
  | .expression (.anonymousTypeCreate _) => some (Layout.initializerBraces policy)
  | owner => owner.bodyStyle? policy opened.head?

end Node

def BraceStyle.bringsSpace : BraceStyle → Bool
  | .doNotChange => true
  | .sameLine => true
  | .banner => true
  | _ => false

namespace Layout

theorem omitsBraces_eq (frames : Frames) (initializer : ArrayInitializer) :
    omitsBraces ((frames.map Frame.node).map fun node => ⟨node, []⟩) initializer =
      omitsBraces frames initializer := by
  have parent : Frames.parent? ((frames.map Frame.node).map fun node => ⟨node, []⟩) = frames.parent? := by
    simp [Frames.parent?, Function.comp_def]
  have grandparent : Frames.grandparent? ((frames.map Frame.node).map fun node => ⟨node, []⟩) =
      frames.grandparent? := by
    simp [Frames.grandparent?, Function.comp_def]
  unfold omitsBraces
  rw [parent, grandparent]

theorem braced_of_body {policy : Policy} {owner : Node} {above : Frames} {style : BraceStyle}
    (address : List Nat) (selected : owner.bodyStyle? policy (above.map Frame.node).head? = some style) :
    ∃ found, bracedPlan? policy (⟨owner, address⟩ :: above) owner = some found ∧ found.style = style := by
  rw [← Frames.parent?_cons ⟨owner, address⟩] at selected
  obtain ⟨body, spec⟩ := body_spec selected
  obtain ⟨found, shape, _⟩ := body_listing body
  exact ⟨found, shape, (spec found shape).1⟩

theorem braced_of_braces {policy : Policy} {owner : Node} {above : Frames} {style : BraceStyle}
    (address : List Nat) (selected : owner.braces? policy (above.map Frame.node) = some style) :
    ∃ found, bracedPlan? policy (⟨owner, address⟩ :: above) owner = some found ∧ found.style = style := by
  unfold Node.braces? at selected
  split at selected
  next initializer =>
      have same := omitsBraces_eq (⟨.arrayInitializer initializer, address⟩ :: above) initializer
      rw [List.map_cons] at same
      rw [same] at selected
      split at selected
      next => cases selected
      next spelled =>
          cases selected
          exact ⟨_, if_neg spelled, rfl⟩
  next initializers =>
      cases selected
      exact ⟨_, rfl, rfl⟩
  next => exact braced_of_body address selected

end Layout

/-- An opening brace behind a token of the same line. `spaces` are those before the one that comes with the
brace: behind the header of a body there are none, unless its last constraint lists no type, and those
before an initializer are written by what has it as its value. -/
structure BraceInLine (policy : Policy) (before : List Event) (owner : Node)
    (header inside later : List Event) (spaces : Nat) : Prop where
  whole : later = header ++ .space :: .token .openBrace "\x7b" :: inside
  apart : Page.EndsSpaced policy (before ++ .enter owner :: header ++ [.space]) (spaces + 1)
  brace : (Page.after policy
    (before ++ .enter owner :: header ++ [.space] ++ [.token .openBrace "\x7b"])).destination =
    (Page.after policy (before ++ .enter owner :: header ++ [.space])).destination ++ "\x7b"
  body : owner.isInitializer = false → spaces = owner.headerSpaces (openAfter [] before).head?
  value : owner.isInitializer = true → ∀ parent spaced inside more, (openAfter [] before).head? =
    some parent →
    parent.valueSpace? policy = some spaced → later = inside ++ .leave owner :: .leave parent :: more →
    WellNested inside → spaces = if spaced then 1 else 0

namespace Layout

section Braces

variable {policy : Policy} {root owner : Node} {found before later rest header inside closing : List Event}
  {address : List Nat} {above : Frames} {style : BraceStyle} {braced : BracedPlan} {spaces : Nat}

theorem BracedVisit.margin_header
    (visit : BracedVisit policy owner address above braced before later header inside closing rest) :
    marginAfter .start (before ++ .enter owner :: header) =
      marginAfterSteps (marginAfter .start before)
        (partSteps policy owner address above 0 braced.heading) := by
  rw [visit.header_eq, marginAfter_visit]

theorem BracedVisit.spaces_eq
    (visit : BracedVisit policy owner address above braced before later header inside closing rest)
    (shape : bracedPlan? policy (⟨owner, address⟩ :: above) owner = some braced)
    (body : owner.isInitializer = false) (plain : root.Every fun part => part.kind ≠ .pattern)
    (printed : events policy root = .ok found) (split : found = before ++ .enter owner :: later)
    (below : owner ≠ root) (every : owner.Every fun part => part.kind ≠ .pattern)
    (margin : marginAfter .start (before ++ .enter owner :: header) = ⟨true, spaces⟩) :
    spaces = owner.headerSpaces (openAfter [] before).head? := by
  rw [visit.margin_header] at margin
  rcases heading_margin shape body every.children (openAfter [] before).head? with
    ⟨⟨inner, rfl⟩, none⟩ | settles
  · rw [none] at margin
    exact block_margin plain printed split below margin
  · rw [part_margin every (hasHeader_of_braced shape) visit.headerTaken visit.headerSound (.inl rfl)
      (settles none)] at margin
    exact (Margin.mk.inj margin).2.symm

theorem lead_of_bringsSpace (spaced : style.bringsSpace = true) : style.lead false = [.space] := by
  cases style with
  | doNotChange => rfl
  | sameLine => rfl
  | banner => rfl
  | _ => cases spaced

theorem Visited.braceInLine (plain : root.Every fun part => part.kind ≠ .pattern)
    (printed : events policy root = .ok found) (split : found = before ++ .enter owner :: later)
    (every : owner.Every fun part => part.kind ≠ .pattern) (below : owner ≠ root)
    (visited : Visited policy [] true before owner later address above rest)
    (selected : owner.braces? policy (openAfter [] before) = some style) (brings : style.bringsSpace = true) :
    ∃ header inside, WellNested header ∧
      later = header ++ (style.lead (Page.after policy (before ++ .enter owner :: header)).atLineStart ++
        .token .openBrace "\x7b" :: inside) ∧
      ∀ spaces, marginAfter .start (before ++ .enter owner :: header) = ⟨true, spaces⟩ →
        BraceInLine policy before owner header inside later spaces := by
  rw [← visited.nodes] at selected
  obtain ⟨braced, shape, rfl⟩ := braced_of_braces address selected
  obtain ⟨header, inside, closing, parts⟩ := visited.braced shape
  have whole := parts.after_eq
  rw [← Page.after_lineStart policy] at whole
  refine ⟨header, _, parts.headerNested, whole, fun spaces margin => ?_⟩
  have opened : (Page.after policy (before ++ .enter owner :: header)).atLineStart = false := by
    rw [Page.after_atLineStart, margin]
    rfl
  have spaced : (Page.after policy (before ++ .enter owner :: header ++ [.space])).atLineStart = false := by
    rw [Page.after_lineStart, lineStartAfterEvents_append]
    rfl
  rw [opened, lead_of_bringsSpace brings] at whole
  refine ⟨whole, (Page.endsSpaced policy margin).followed rfl 1 (Page.after_space_open opened),
    Page.after_brace_open spaced _, fun body =>
      parts.spaces_eq shape body plain printed split below every margin, ?_⟩
  intro initializer parent spaced inside more around value ends nested
  rw [parts.margin_header] at margin
  cases owner with
  | arrayInitializer initializer =>
      rw [heading_of_initializer shape] at margin
      have known := initializer_margin plain printed split below around value ends nested
      exact (Margin.mk.inj (margin.symm.trans known)).2
  | _ => cases initializer

end Braces

end Layout

/-- An opening brace in the line of its header has exactly one space before it where no space was written
before the one that comes with the brace, and one more for each such space. -/
theorem spaces_before_braces {policy : Policy} {tree : SyntaxTree} {text : String}
    (plain : (Node.syntaxTree tree).Every fun part => part.kind ≠ .pattern)
    (printed : print policy tree = .ok text) :
    ∃ found, events policy (.syntaxTree tree) = .ok found ∧ (Page.after policy found).destination = text ∧
      ∀ before owner later style, found = before ++ .enter owner :: later →
        owner.braces? policy (openAfter [] before) = some style → style.bringsSpace = true →
        ∃ header inside, WellNested header ∧
          later = header ++ (style.lead (Page.after policy (before ++ .enter owner :: header)).atLineStart ++
            .token .openBrace "\x7b" :: inside) ∧
          ∀ spaces, marginAfter .start (before ++ .enter owner :: header) = ⟨true, spaces⟩ →
            BraceInLine policy before owner header inside later spaces := by
  obtain ⟨found, run, _⟩ := print_events printed
  have same := printed
  rw [print, printNode_of_events run] at same
  refine ⟨found, run, Except.ok.inj same, fun before owner later style split selected brings => ?_⟩
  obtain ⟨address, above, rest, every, _, visited⟩ := events_visited plain run split
  have below : owner ≠ .syntaxTree tree := by
    rintro rfl
    cases selected
  exact visited.braceInLine plain run split every below selected brings

def oneElement : ArrayInitializer := ⟨[.literal (.int 1) none], false, false⟩

def integers : TypeRef := .composed (.primitive "int") false 0 [⟨1⟩]

def initializedArray : VariableInitializer := ⟨⟨"a", false, none⟩, some (.arrayInitializer oneElement)⟩

def arrayField : FieldDeclaration := ⟨[], [], integers, [initializedArray]⟩

def arrayHolder : TypeDeclaration :=
  ⟨[], [], .classType, ⟨"C", false, none⟩, [], [], [], [.field arrayField], false, false⟩

theorem spaces_in_arrayHolder :
    (Node.syntaxTree ⟨[.type arrayHolder]⟩).Every (fun part => part.kind ≠ .pattern) ∧
      print Policy.kr ⟨[.type arrayHolder]⟩ =
        .ok "class C \x7b\n\tint[] a =  \x7b\n\t\t1\n\t\x7d;\n\x7d\n" ∧
      ∃ found, events Policy.kr (.syntaxTree ⟨[.type arrayHolder]⟩) = .ok found ∧
        ∀ before owner later style, found = before ++ .enter owner :: later →
          owner.braces? Policy.kr (openAfter [] before) = some style → style.bringsSpace = true →
          ∃ header inside, WellNested header ∧
            later = header ++
              (style.lead (Page.after Policy.kr (before ++ .enter owner :: header)).atLineStart ++
              .token .openBrace "\x7b" :: inside) ∧
            ∀ spaces, marginAfter .start (before ++ .enter owner :: header) = ⟨true, spaces⟩ →
              BraceInLine Policy.kr before owner header inside later spaces := by
  have plain : (Node.syntaxTree ⟨[.type arrayHolder]⟩).Every fun part => part.kind ≠ .pattern := by
    decide +kernel
  have printed : print Policy.kr ⟨[.type arrayHolder]⟩ =
      .ok "class C \x7b\n\tint[] a =  \x7b\n\t\t1\n\t\x7d;\n\x7d\n" := by decide +kernel
  obtain ⟨found, run, _, braces⟩ := spaces_before_braces plain printed
  exact ⟨plain, printed, found, run, braces⟩

/-- Two spaces stand before the brace of an array where it is declared: the one behind the equals sign and
the one that comes with the brace. -/
theorem two_spaces_before_initializer :
    ∃ before later, events Policy.kr (.syntaxTree ⟨[.type arrayHolder]⟩) =
        .ok (before ++ .enter (.arrayInitializer oneElement) :: .space :: .token .openBrace "\x7b" :: later) ∧
      (Node.arrayInitializer oneElement).braces? Policy.kr (openAfter [] before) = some .sameLine ∧
      marginAfter .start before = ⟨true, 1⟩ ∧
      ¬ Page.EndsSpaced Policy.kr (before ++ [.enter (.arrayInitializer oneElement), .space]) 1 := by
  let before : List Event :=
    [.enter (.syntaxTree ⟨[.type arrayHolder]⟩), .enter (.typeDeclaration arrayHolder), .keyword "class",
      .identifier "C" .type, .space, .token .openBrace "\x7b", .indent, .newline, .enter (.field arrayField),
      .enter (.type integers), .enter (.type (.primitive "int")), .primitiveType "int",
      .leave (.type (.primitive "int")), .enter (.arraySpecifier ⟨1⟩), .token .openBracket "[",
      .token .closeBracket "]", .leave (.arraySpecifier ⟨1⟩), .leave (.type integers), .space,
      .enter (.variableInitializer initializedArray), .identifier "a" .field, .space,
      .token .operator "=", .space]
  let later : List Event :=
    [.indent, .newline, .enter (.expression (.literal (.int 1) none)), .literal (.int 1) none,
      .leave (.expression (.literal (.int 1) none)), .newline, .unindent, .token .closeBrace "\x7d",
      .leave (.arrayInitializer oneElement), .leave (.variableInitializer initializedArray),
      .token .semicolon ";", .newline, .leave (.field arrayField), .unindent, .token .closeBrace "\x7d",
      .newline, .leave (.typeDeclaration arrayHolder), .leave (.syntaxTree ⟨[.type arrayHolder]⟩)]
  have ends : Page.EndsSpaced Policy.kr (before ++ [.enter (.arrayInitializer oneElement), .space]) 2 :=
    Page.endsSpaced Policy.kr rfl
  refine ⟨before, later, ?_, rfl, rfl, fun once => nomatch ends.unique once⟩
  set_option maxRecDepth 4000 in
  with_unfolding_all rfl

end CSharpLayout
