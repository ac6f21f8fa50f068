import CSharpLayout.Proofs.HeaderTerminators
import CSharpLayout.Proofs.Separators

/-! Delimiters that are left out. An initializer inside another one can go without its braces, and the only
parameter of a lambda without its parentheses; what decides it, and what then stands there alone. -/

namespace CSharpLayout

namespace Expression

/-- What prints as a name, an equals sign and a value, like a member of an object initializer. -/
def isAssignmentShaped : Expression → Bool
  | .assignment _ .assign _ => true
  | .named _ _ => true
  | _ => false

def isNamed : Expression → Bool
  | .named _ _ => true
  | _ => false

end Expression

def Node.isCreation : Node → Bool
  | .expression (.objectCreate _ _ _ _) => true
  | .expression (.named _ _) => true
  | _ => false

/-- An initializer with a single element, whose braces the source did not spell, inside the initializer of a
creation. -/
structure SoleElement (opened : List Node) (initializer : ArrayInitializer) (element : Expression) :
    Prop where
  only : initializer.elements = [element]
  unspelled : initializer.explicitBraces = false
  place : ∃ outer owner above, opened = .arrayInitializer outer :: owner :: above ∧ owner.isCreation = true

namespace Layout

theorem isPlainAssignment_iff (element : Expression) :
    isPlainAssignment element = false ↔ (element.isAssignmentShaped = true → element.isNamed = true) := by
  cases element with
  | assignment left operator right =>
      cases operator <;> simp [isPlainAssignment, Expression.isAssignmentShaped, Expression.isNamed]
  | _ => simp [isPlainAssignment, Expression.isAssignmentShaped, Expression.isNamed]

theorem omitsBraces_iff (frame : Frame) {above : Frames} {initializer : ArrayInitializer} :
    omitsBraces (frame :: above) initializer = true ↔
      ∃ element, SoleElement (above.map Frame.node) initializer element ∧
        (element.isAssignmentShaped = true → element.isNamed = true) := by
  constructor
  · intro omitted
    unfold omitsBraces at omitted
    split at omitted
    next element only =>
        simp only [Bool.and_eq_true, Bool.not_eq_true', Frames.parent?, Frames.grandparent?] at omitted
        obtain ⟨⟨unspelled, plain⟩, place⟩ := omitted
        refine ⟨element, ⟨only, unspelled, ?_⟩, (isPlainAssignment_iff element).mp plain⟩
        rcases above with _ | ⟨parent, _ | ⟨owner, above⟩⟩
        · simp at place
        · simp at place
        · simp only [List.getElem?_cons_succ, List.getElem?_cons_zero, Option.map_some] at place
          rw [List.map_cons, List.map_cons]
          split at place
          next outer _ _ _ _ inside creation =>
              exact ⟨outer, _, _, by rw [Option.some.inj inside], by rw [Option.some.inj creation]; rfl⟩
          next outer _ _ inside creation =>
              exact ⟨outer, _, _, by rw [Option.some.inj inside], by rw [Option.some.inj creation]; rfl⟩
          next => cases place
    next => cases omitted
  · rintro ⟨element, ⟨only, unspelled, outer, owner, rest, opened, creation⟩, shaped⟩
    have plain := (isPlainAssignment_iff element).mpr shaped
    rcases above with _ | ⟨parent, _ | ⟨grandparent, above⟩⟩
    · cases opened
    · cases (List.cons.inj opened).2
    · rw [List.map_cons, List.map_cons] at opened
      obtain ⟨inside, owned⟩ := List.cons.inj opened
      have around := (List.cons.inj owned).1
      subst around
      simp only [omitsBraces, only, unspelled, plain, Frames.parent?, Frames.grandparent?,
        List.getElem?_cons_succ, List.getElem?_cons_zero, Option.map_some, inside]
      unfold Node.isCreation at creation
      split at creation
      next same => simp [same]
      next same => simp [same]
      next => cases creation

end Layout

/-- An initializer is printed without braces of its own exactly if it stands in the initializer of a
creation, its braces are not spelled in the source, and it has a single element that is no assignment. A
named element prints like an assignment and goes without the braces all the same. -/
theorem braces_left_out_iff {policy : Policy} {root : Node} {found : List Event}
    (printed : events policy root = .ok found) {before after : List Event} {node : Node}
    {initializer : ArrayInitializer} (split : found = before ++ .enter node :: after)
    (same : node.initializer? = some initializer) :
    (outline 0 after).any Part.isBrace = false ↔
      ∃ element, SoleElement (openAfter [] before) initializer element ∧
        (element.isAssignmentShaped = true → element.isNamed = true) := by
  obtain ⟨address, above, rest, visited⟩ := events_entered printed split
  rw [visited.outline_eq, Layout.plan_initializer same, ← visited.nodes,
    ← Layout.omitsBraces_iff ⟨node, address⟩]
  rcases Layout.inBraces_initializer policy (⟨node, address⟩ :: above) initializer with
    ⟨omitted, none⟩ | ⟨kept, heading, closing, shape, _⟩
  · simp only [omitted, none]
  · rw [shape, kept]
    simp [Part.isBrace]

section Bag

def bagType : TypeRef := .simple ⟨"Bag", false, none⟩ []

def namedElement : Expression := .named ⟨"X", false, none⟩ (.literal (.int 1) none)

def innerBag : ArrayInitializer := ⟨[namedElement], false, false⟩

def outerBag : ArrayInitializer := ⟨[.arrayInitializer innerBag], false, false⟩

def bagCreation : Node := .expression (.objectCreate bagType [] false (some outerBag))

def beforeInnerBag : List Event :=
  [.enter bagCreation, .keyword "new", .enter (.type bagType), .identifier "Bag" .type,
    .leave (.type bagType), .enter (.arrayInitializer outerBag), .space, .token .openBrace "\x7b",
    .indent, .newline]

def afterInnerBag : List Event :=
  [.enter (.expression namedElement), .identifier "X" .property, .space, .token .operator "=", .space,
    .enter (.expression (.literal (.int 1) none)), .literal (.int 1) none,
    .leave (.expression (.literal (.int 1) none)), .leave (.expression namedElement),
    .leave (.arrayInitializer innerBag), .newline, .unindent, .token .closeBrace "\x7d",
    .leave (.arrayInitializer outerBag), .leave bagCreation]

theorem events_bagCreation :
    events Policy.kr bagCreation =
      .ok (beforeInnerBag ++ .enter (.arrayInitializer innerBag) :: afterInnerBag) := by
  set_option maxRecDepth 4000 in
  with_unfolding_all rfl

theorem inner_bag_has_no_braces :
    events Policy.kr bagCreation =
      .ok (beforeInnerBag ++ .enter (.arrayInitializer innerBag) :: afterInnerBag) ∧
      (Node.arrayInitializer innerBag).initializer? = some innerBag ∧
      ((outline 0 afterInnerBag).any Part.isBrace = false ↔
        ∃ element, SoleElement (openAfter [] beforeInnerBag) innerBag element ∧
          (element.isAssignmentShaped = true → element.isNamed = true)) :=
  ⟨events_bagCreation, rfl, braces_left_out_iff events_bagCreation rfl rfl⟩

/-- The braces of an initializer with one named element are left out, and what stands there reads as a
member of the object that is created. -/
theorem named_element_loses_braces :
    events Policy.kr bagCreation =
      .ok (beforeInnerBag ++ .enter (.arrayInitializer innerBag) :: afterInnerBag) ∧
      (outline 0 afterInnerBag).any Part.isBrace = false ∧
      ∃ element, innerBag.elements = [element] ∧ element.isAssignmentShaped = true :=
  ⟨events_bagCreation, rfl, namedElement, rfl, rfl⟩

end Bag

def tokens (events : List Event) : List Event := events.filter Event.isToken

theorem tokens_append (left right : List Event) : tokens (left ++ right) = tokens left ++ tokens right :=
  List.filter_append ..

theorem tokens_visit (node : Node) (body : List Event) :
    tokens (.enter node :: (body ++ [.leave node])) = tokens body := by
  rw [← List.singleton_append, tokens_append, tokens_append]
  exact List.append_nil _

theorem delimiters_tokens (events : List Event) : delimiters (tokens events) = delimiters events := by
  rw [delimiters, delimiters, tokens, List.filterMap_filter]
  congr 1
  funext event
  cases event <;> rfl

/-- What can stand before the arrow of a lambda: a name alone, or a list in parentheses. -/
inductive IsLambdaHeader : List Event → Prop
  | name (text : String) (tokenClass : TokenClass) : IsLambdaHeader [.identifier text tokenClass]
  | list {inside : List Event} : Paired (delimiters inside) →
      IsLambdaHeader (.token .openParen "(" :: (inside ++ [.token .closeParen ")"]))

def Parameter.isName (parameter : Parameter) : Prop :=
  parameter.attributes = [] ∧ parameter.name.isSome = true ∧ parameter.defaultExpression = none

def Part.isArrow : Part → Bool
  | .token (.token .operator "=>") => true
  | _ => false

namespace Layout

section Headers

variable {policy : Policy} {node : Node} {address : List Nat} {above : Frames}

theorem isLambdaHeader_parenthesized (within : Bool) (nodes : List Node) (slot : Nat) (atLineStart : Bool) :
    IsLambdaHeader (tokens (settled atLineStart
      (partSteps policy node address above slot (parenthesizedList policy within nodes)))) := by
  let inner := spaceIf (within && !nodes.isEmpty) ++ commaSeparated policy nodes ++
    spaceIf (within && !nodes.isEmpty)
  have flat : inner.all Piece.isFlat = true := by
    simp only [inner, List.all_append, flat_spaceIf, flat_commaSeparated, Bool.and_self]
  have shape : parenthesizedList policy within nodes =
      .event (.token .openParen "(") :: (inner ++ symbol .closeParen ")") := by
    simp [parenthesizedList, inParentheses, enclosed, symbol, inner]
  rw [shape, settled_own, partSteps_append, settled_append]
  have closed : Closed policy node address above inner :=
    (Matched.of_flat policy flat).closed fun _ _ _ _ => steps_paired policy _ _ _
  have paired := closed slot
  rw [← delimiters_settled (Event.lineStartAfter atLineStart (.token .openParen "(")),
    ← delimiters_tokens] at paired
  have whole := IsLambdaHeader.list paired
  rw [← List.singleton_append, tokens_append, tokens_append]
  exact whole

theorem tokens_assigned (value : Expression) (slot : Nat) (atLineStart : Bool) :
    ∃ rest, tokens
      (settled atLineStart (partSteps policy node address above slot (assigned policy (some value)))) =
      .token .operator "=" :: rest := by
  obtain ⟨spaced, shape⟩ : ∃ spaced,
      assigned policy (some value) = around spaced .operator "=" ++ visit (Node.ofExpression value) :=
    ⟨_, rfl⟩
  rw [shape]
  cases spaced <;> exact ⟨_, rfl⟩

theorem tokens_attributed (parameter : Parameter) {first : AttributeSection} {more : List AttributeSection}
    (attributed : parameter.attributes = first :: more) (atLineStart : Bool) :
    ∃ rest, tokens (settled atLineStart (partSteps policy (.parameter parameter) address above 0
      (plan policy (⟨.parameter parameter, address⟩ :: above) (.parameter parameter)))) =
        .token .openBracket "[" :: rest := by
  obtain ⟨attributes, modifier, type, name, default⟩ := parameter
  cases attributed
  change ∃ rest, tokens (settled atLineStart (partSteps policy _ address above 0
    (.child (.attributeSection first) :: _))) = _
  rw [partSteps_cons]
  change ∃ rest,
    tokens (settled atLineStart (steps policy (.attributeSection first) (0 :: address) _ ++ _)) = _
  rw [steps_eq]
  exact ⟨_, rfl⟩

/-- A parameter without type and modifier is a name alone exactly if it has a name, no attributes and no
default value. -/
theorem isLambdaHeader_parameter {parameter : Parameter} (untyped : parameter.parameterType = none)
    (plain : parameter.modifier = .plain)
    (sound : firstFault? (partSteps policy (.parameter parameter) address above 0
      (plan policy (⟨.parameter parameter, address⟩ :: above) (.parameter parameter))) =
        none) (atLineStart : Bool) :
    IsLambdaHeader (tokens (settled atLineStart (partSteps policy (.parameter parameter) address above 0
      (plan policy (⟨.parameter parameter, address⟩ :: above) (.parameter parameter))))) ↔
        parameter.isName := by
  cases attributed : parameter.attributes with
  | cons first more =>
      obtain ⟨rest, shape⟩ : ∃ rest,
        tokens (settled atLineStart (partSteps policy (.parameter parameter) address above 0
          (plan policy (⟨.parameter parameter, address⟩ :: above) (.parameter parameter)))) =
            .token .openBracket "[" :: rest :=
        tokens_attributed parameter attributed atLineStart
      rw [shape]
      exact ⟨nofun, fun bare => nomatch attributed.symm.trans bare.1⟩
  | nil =>
      obtain ⟨attributes, modifier, type, name, default⟩ := parameter
      cases untyped
      cases plain
      cases attributed
      cases name with
      | none =>
          refine ⟨fun header => ?_, fun bare => nomatch bare.2.1⟩
          cases default with
          | none => nomatch header
          | some value =>
              change IsLambdaHeader (tokens (settled atLineStart (partSteps policy _ address above 0
                (assigned policy (some value))))) at header
              obtain ⟨rest, shape⟩ := tokens_assigned value 0 atLineStart
              rw [shape] at header
              nomatch header
      | some name =>
          change firstFault? (partSteps policy _ address above 0
            (identifier (⟨.parameter _, address⟩ :: above) name .parameter ++ assigned policy default)) =
              none at sound
          change IsLambdaHeader (tokens (settled atLineStart (partSteps policy _ address above 0
            (identifier (⟨.parameter _, address⟩ :: above) name .parameter ++ assigned policy default)))) ↔ _
          rw [identifier_of_sound sound, List.singleton_append, settled_own, ← List.singleton_append,
            tokens_append]
          cases default with
          | none => exact ⟨fun _ => ⟨rfl, rfl, rfl⟩, fun _ => .name _ _⟩
          | some value =>
              obtain ⟨rest, shape⟩ :=
                tokens_assigned value 0 (Event.lineStartAfter atLineStart (.identifier _ _))
              rw [shape]
              exact ⟨nofun, fun bare => nomatch bare.2.2⟩

def parameterPart (policy : Policy) (parameters : List Parameter) : List Piece :=
  if isBareParameter parameters then commaSeparated policy (Node.ofParameters parameters)
  else parameterList policy parameters

/-- A lambda in parts: an asynchronous one has a keyword, then come the parameters, the arrow and the body. -/
theorem plan_lambda (policy : Policy) (frames : Frames) (isAsync : Bool) (parameters : List Parameter)
    (body : LambdaBody) :
    ∃ back, plan policy frames (.expression (.lambda isAsync parameters body)) =
      (if isAsync then word "async" ++ space else []) ++
        (parameterPart policy parameters ++ (.event .space :: .event (.token .operator "=>") :: back)) := by
  rw [plan, expression]
  unfold lambda
  simp only [List.append_assoc]
  exact ⟨_, rfl⟩

theorem arrowless_parameterPart (parameters : List Parameter) :
    (sketch (parameterPart policy parameters)).any Part.isArrow = false := by
  have list : (sketch (commaSeparated policy (Node.ofParameters parameters))).any Part.isArrow = false :=
    sketch_commaSeparated_any policy _ (fun _ => rfl) rfl
  unfold parameterPart
  split
  · exact list
  · simp [parameterList, parenthesizedList, inParentheses, enclosed, list, Part.isArrow]

theorem isBareParameter_iff (parameters : List Parameter) :
    isBareParameter parameters = true ↔
      ∃ only, parameters = [only] ∧ only.parameterType = none ∧ only.modifier = .plain := by
  match parameters with
  | [] => simp [isBareParameter]
  | [only] => simp [isBareParameter]
  | first :: second :: rest => simp [isBareParameter]

/-- What stands before the arrow is a name or a list in parentheses, unless the only parameter goes without
parentheses and is more or less than a name. -/
theorem isLambdaHeader_parameterPart {isAsync : Bool} {parameters : List Parameter} {body : LambdaBody}
    (sound : firstFault? (partSteps policy (.expression (.lambda isAsync parameters body)) address above 0
      (parameterPart policy parameters)) = none) (atLineStart : Bool) :
    IsLambdaHeader
      (tokens (settled atLineStart (partSteps policy (.expression (.lambda isAsync parameters body)) address
      above 0 (parameterPart policy parameters)))) ↔
        ∀ only, parameters = [only] → only.parameterType = none → only.modifier = .plain → only.isName := by
  unfold parameterPart at sound ⊢
  cases bare : isBareParameter parameters with
  | false =>
      refine iff_of_true (isLambdaHeader_parenthesized ..) fun only same untyped plain => ?_
      exact absurd ((isBareParameter_iff parameters).mpr ⟨only, same, untyped, plain⟩) (by simp [bare])
  | true =>
      obtain ⟨only, rfl, untyped, plain⟩ := (isBareParameter_iff parameters).mp bare
      rw [bare, if_pos rfl] at sound
      have alone : partSteps policy (.expression (.lambda isAsync [only] body)) address above 0
          (commaSeparated policy (Node.ofParameters [only])) =
            steps policy (.parameter only) (0 :: address)
              (⟨.expression (.lambda isAsync [only] body), address⟩ :: above) := by
        change partSteps policy _ address above 0 [.child (.parameter only)] = _
        rw [partSteps_cons, partSteps_nil, List.append_nil]
        rfl
      rw [alone, firstFault?_steps] at sound
      rw [if_pos rfl, alone, settled_steps]
      have inside := isLambdaHeader_parameter untyped plain sound atLineStart
      refine (tokens_visit .. ▸ inside).trans ⟨fun bareName other same _ _ => ?_,
        fun every => every only rfl untyped plain⟩
      cases same
      exact bareName

end Headers

end Layout

/-- What a lambda prints before its arrow, behind the keyword of an asynchronous one, is a name alone or a
list in parentheses, exactly unless its only parameter has neither type nor modifier but attributes, a
default value or no name. -/
theorem lambda_header_iff {policy : Policy} {root : Node} {found : List Event}
    (printed : events policy root = .ok found) {before after : List Event} {isAsync : Bool}
    {parameters : List Parameter} {body : LambdaBody}
    (split : found = before ++ .enter (.expression (.lambda isAsync parameters body)) :: after) :
    ∃ header later,
      after = (if isAsync then [.keyword "async", .space] else []) ++ header ++ .space ::
        .token .operator "=>" :: later ∧
      WellNested header ∧ (outline 0 header).any Part.isArrow = false ∧
      (IsLambdaHeader (tokens header) ↔
        ∀ only, parameters = [only] → only.parameterType = none → only.modifier = .plain → only.isName) := by
  obtain ⟨address, above, rest, visited⟩ := events_entered printed split
  obtain ⟨back, shape⟩ := Layout.plan_lambda policy
    (⟨.expression (.lambda isAsync parameters body), address⟩ :: above) isAsync parameters body
  obtain ⟨header, sound, ⟨start, whole⟩, ⟨line, written⟩, nested, parts⟩ := visited.part shape
  have front : Layout.slots (if isAsync then Layout.word "async" ++ Layout.space else []) =
      0 := by cases isAsync <;> rfl
  rw [front] at sound written
  have keyword : settled (lineStartAfterEvents true before) (Layout.partSteps policy
      (.expression (.lambda isAsync parameters body)) address above 0
        (if isAsync then Layout.word "async" ++ Layout.space else [])) =
      if isAsync then [.keyword "async", .space] else [] := by
    cases isAsync <;> rfl
  rw [keyword, Layout.settled_own, Layout.settled_own, ← List.append_assoc, List.cons_append,
    List.cons_append] at whole
  exact ⟨header, _, whole, nested, parts ▸ Layout.arrowless_parameterPart parameters,
    written ▸ Layout.isLambdaHeader_parameterPart sound line⟩

section Default

def defaultedParameter : Parameter :=
  ⟨[], .plain, none, some ⟨"x", false, none⟩, some (.literal (.int 1) none)⟩

def defaultedLambda : Node := .expression (.lambda false [defaultedParameter] (.expression (bareName "x")))

def defaultedHeader : List Event :=
  [.enter (.parameter defaultedParameter), .identifier "x" .parameter, .space, .token .operator "=", .space,
    .enter (.expression (.literal (.int 1) none)), .literal (.int 1) none,
    .leave (.expression (.literal (.int 1) none)), .leave (.parameter defaultedParameter)]

def defaultedBody : List Event :=
  [.space, .enter (.expression (bareName "x")), .identifier "x" .text, .leave (.expression (bareName "x")),
    .leave defaultedLambda]

theorem events_defaultedLambda :
    events Policy.kr defaultedLambda =
      .ok ([] ++ .enter defaultedLambda ::
        (defaultedHeader ++ .space :: .token .operator "=>" :: defaultedBody)) := by
  with_unfolding_all rfl

theorem defaulted_lambda_has_header :
    events Policy.kr defaultedLambda =
        .ok ([] ++ .enter defaultedLambda ::
          (defaultedHeader ++ .space :: .token .operator "=>" :: defaultedBody)) ∧
      ∃ header later,
        defaultedHeader ++ .space :: .token .operator "=>" :: defaultedBody =
          header ++ .space :: .token .operator "=>" :: later ∧
        WellNested header ∧ (outline 0 header).any Part.isArrow = false ∧
        (IsLambdaHeader (tokens header) ↔
          ∀ only, [defaultedParameter] = [only] → only.parameterType = none → only.modifier = .plain →
            only.isName) :=
  ⟨events_defaultedLambda, lambda_header_iff events_defaultedLambda rfl⟩

/-- A default value without parentheses around it is printed before the arrow: `x = 1 => x`. -/
theorem default_value_before_arrow :
    events Policy.kr defaultedLambda =
        .ok ([] ++ .enter defaultedLambda ::
          (defaultedHeader ++ .space :: .token .operator "=>" :: defaultedBody)) ∧
      WellNested defaultedHeader ∧ (outline 0 defaultedHeader).any Part.isArrow = false ∧
      tokens defaultedHeader = [.identifier "x" .parameter, .token .operator "=", .literal (.int 1) none] ∧
      ¬ IsLambdaHeader (tokens defaultedHeader) := by
  refine ⟨events_defaultedLambda, ?_, rfl, rfl, nofun⟩
  exact ⟨_, .visit trivial
    (.append (.plain rfl) (.append (.plain rfl) (.append (.plain rfl) (.append (.plain rfl)
    (.visit trivial (.plain rfl))))))⟩

end Default

end CSharpLayout
