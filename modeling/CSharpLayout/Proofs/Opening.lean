import CSharpLayout.Proofs.Indentation
import CSharpLayout.Proofs.Tracking

/-! What a node begins with. Where the first token of a node is a directive, the indentation has not changed
since the node was entered. -/

namespace CSharpLayout

def isFirm (events : List Event) : Bool := (events.find? Event.isToken).any fun first => !first.isDirective

/-- Unless the first token is one that is no directive, the events before it lead back to the indentation of
the start. -/
def Steady (events : List Event) : Prop := isFirm events = false → Balanced (lead events)

section Events

variable {left right : List Event}

theorem isFirm_cons_of_silent {event : Event} (silent : event.isToken = false) (rest : List Event) :
    isFirm (event :: rest) = isFirm rest := by
  simp [isFirm, silent]

theorem isFirm_append_of_firm (firm : isFirm left = true) (right : List Event) :
    isFirm (left ++ right) = true := by
  unfold isFirm at firm ⊢
  obtain ⟨first, found, plain⟩ := (Option.any_eq_true _ _).mp firm
  rw [List.find?_append, found]
  exact plain

theorem isFirm_append_of_silent (silent : hasToken left = false) (right : List Event) :
    isFirm (left ++ right) = isFirm right := by
  induction left with
  | nil => rfl
  | cons event rest ih =>
      rw [hasToken_cons, Bool.or_eq_false_iff] at silent
      rw [List.cons_append, isFirm_cons_of_silent silent.1, ih silent.2]

theorem isFirm_append_of_hasToken (some : hasToken left = true) (right : List Event) :
    isFirm (left ++ right) = isFirm left := by
  obtain ⟨token, member, found⟩ := List.any_eq_true.mp some
  obtain ⟨first, shape⟩ := Option.isSome_iff_exists.mp (List.find?_isSome.mpr ⟨token, member, found⟩)
  simp [isFirm, List.find?_append, shape]

theorem Balanced.append (first : Balanced left) (second : Balanced right) : Balanced (left ++ right) := by
  intro depth
  rw [level_append, first, Option.bind_some, second]

theorem Steady.of_firm (firm : isFirm left = true) : Steady left := fun loose => by simp [firm] at loose

theorem Steady.append (even : Balanced left) (first : Steady left) (second : Steady right) :
    Steady (left ++ right) := by
  intro loose
  cases some : hasToken left with
  | true =>
      rw [isFirm_append_of_hasToken some] at loose
      rw [lead_append_of_hasToken some]
      exact first loose
  | false =>
      rw [isFirm_append_of_silent some] at loose
      rw [lead_append_of_silent some]
      exact even.append (second loose)

theorem Steady.of_token {event : Event} (token : event.isToken = true) (rest : List Event) :
    Steady (event :: rest) := by
  intro _ depth
  simp [lead, token, level]

theorem Balanced.still {event : Event} (flat : (event.isIndent || event.isUnindent) = false) :
    Balanced [event] := by
  intro depth
  rw [level_cons]
  cases event with
  | indent => cases flat
  | unindent => cases flat
  | _ => rfl

theorem Steady.still {event : Event} (flat : (event.isIndent || event.isUnindent) = false) :
    Steady [event] := by
  cases token : event.isToken with
  | true => exact .of_token token []
  | false =>
      intro _
      rw [lead_of_silent (by simp [hasToken, token])]
      exact .still flat

theorem Steady.cons {event : Event} {rest : List Event} (flat : (event.isIndent || event.isUnindent) = false)
    (later : Steady rest) : Steady (event :: rest) := Steady.append (.still flat) (.still flat) later

end Events

namespace Layout

def startsFirm : Node → Bool
  | .caseLabel _ => true
  | .query _ => true
  | .queryClause _ => true
  | _ => false

def firm : List Piece → Bool
  | [] => false
  | .event event :: rest => if event.isToken then !event.isDirective else firm rest
  | .child found :: _ => startsFirm found
  | .problem _ :: _ => true
  | .gap :: rest => firm rest
  | .freshLine :: rest => firm rest
  | .hidden _ :: rest => firm rest

def steady : List Piece → Bool
  | [] => true
  | .event event :: rest =>
      event.isToken || (if event.isIndent || event.isUnindent then firm rest else steady rest)
  | .child found :: rest => startsFirm found || steady rest
  | .problem _ :: _ => true
  | .gap :: rest => steady rest
  | .freshLine :: rest => steady rest
  | .hidden _ :: rest => steady rest

section Pieces

variable {rest : List Piece}

@[simp] theorem steady_event (event : Event) (rest : List Piece) :
    steady (.event event :: rest) =
      (event.isToken || (if event.isIndent || event.isUnindent then firm rest else steady rest)) := rfl

@[simp] theorem steady_word (text : String) (rest : List Piece) : steady (word text ++ rest) = true := by
  simp [word, Event.isToken]

@[simp] theorem steady_symbol (role : TokenRole) (text : String) (rest : List Piece) :
    steady (symbol role text ++ rest) = true := by
  simp [symbol, Event.isToken]

@[simp] theorem steady_rawIdentifier (text : String) (tokenClass : TokenClass) (rest : List Piece) :
    steady (rawIdentifier text tokenClass ++ rest) = true := by
  simp [rawIdentifier, Event.isToken]

@[simp] theorem steady_identifier (frames : Frames) (name : Identifier) (tokenClass : TokenClass)
    (rest : List Piece) :
    steady (identifier frames name tokenClass ++ rest) = true := by
  unfold identifier
  split <;> rfl

@[simp] theorem steady_space (rest : List Piece) : steady (space ++ rest) = steady rest := by
  simp [space, Event.isToken, Event.isIndent, Event.isUnindent]

@[simp] theorem steady_spaceIf (wanted : Bool) (rest : List Piece) :
    steady (spaceIf wanted ++ rest) = steady rest := by
  cases wanted <;> rfl

@[simp] theorem steady_newlines (count : Nat) (rest : List Piece) :
    steady (newlines count ++ rest) = steady rest := by
  induction count with
  | zero => rfl
  | succ count ih => exact ih

@[simp] theorem steady_newline (rest : List Piece) : steady (newline ++ rest) = steady rest :=
  steady_newlines 1 rest

@[simp] theorem steady_visitAll (nodes : List Node) (rest : List Piece) :
    steady (visitAll nodes ++ rest) = (nodes.any startsFirm || steady rest) := by
  induction nodes with
  | nil => rfl
  | cons node nodes ih =>
      rw [List.any_cons, Bool.or_assoc, ← ih]
      rfl

@[simp] theorem steady_visit (node : Node) (rest : List Piece) :
    steady (visit node ++ rest) = (startsFirm node || steady rest) := by
  simp [visit, steady]

@[simp] theorem steady_hide (nodes : List Node) (rest : List Piece) :
    steady (hide nodes ++ rest) = steady rest := by
  induction nodes with
  | nil => rfl
  | cons node nodes ih => exact ih

@[simp] theorem steady_modifiers (listed : List Modifier) (rest : List Piece) :
    steady (modifiers listed ++ rest) = (!listed.isEmpty || steady rest) := by
  cases listed <;> rfl

@[simp] theorem steady_comma (policy : Policy) (tight : Bool) (rest : List Piece) :
    steady (comma policy tight ++ rest) = true := by
  simp [comma, List.append_assoc]

@[simp] theorem steady_semicolon (frames : Frames) (rest : List Piece) :
    steady (semicolon frames ++ rest) = (!inHeader frames || steady rest) := by
  cases header : inHeader frames <;> simp [semicolon, header]

@[simp] theorem steady_commaSeparated (policy : Policy) (nodes : List Node) (later : steady rest = true) :
    steady (commaSeparated policy nodes ++ rest) = true := by
  fun_cases commaSeparated policy nodes with
  | case1 => exact later
  | case2 node => simp [later]
  | case3 node others _ => simp [List.append_assoc]

@[simp] theorem steady_inParentheses (within : Bool) (body rest : List Piece) :
    steady (inParentheses within body ++ rest) = true := by
  simp [inParentheses, enclosed, List.append_assoc]

@[simp] theorem steady_inBrackets (within : Bool) (body rest : List Piece) :
    steady (inBrackets within body ++ rest) = true := by
  simp [inBrackets, enclosed, List.append_assoc]

@[simp] theorem steady_parenthesizedList (policy : Policy) (within : Bool) (nodes : List Node)
    (rest : List Piece) :
    steady (parenthesizedList policy within nodes ++ rest) = true := steady_inParentheses _ _ _

@[simp] theorem steady_bracketedList (policy : Policy) (within : Bool) (nodes : List Node)
    (rest : List Piece) :
    steady (bracketedList policy within nodes ++ rest) = true := steady_inBrackets _ _ _

@[simp] theorem steady_chevronList (policy : Policy) (nodes : List Node) (later : steady rest = true) :
    steady (chevronList policy nodes ++ rest) = true := by
  unfold chevronList
  split
  · exact later
  · rfl

@[simp] theorem steady_braced (style : BraceStyle) (body rest : List Piece) :
    steady (braced style body ++ rest) = true := by
  cases style <;> rfl

theorem steady_ite {condition : Prop} [Decidable condition] {left right : List Piece}
    (first : steady (left ++ rest) = true) (second : steady (right ++ rest) = true) :
    steady ((if condition then left else right) ++ rest) = true := by
  split
  · exact first
  · exact second

end Pieces

section Plans

variable (policy : Policy) (frames : Frames) {rest : List Piece}

theorem steady_group (name : Option String) (later : steady rest = true) :
    steady (group name ++ rest) = true := by
  cases name with
  | none => exact later
  | some text => exact steady_ite later rfl

mutual

theorem steady_pattern (found : Pattern) {rest : List Piece} (later : steady rest = true) :
    steady (pattern found ++ rest) = true := by
  cases found with
  | any groupName => exact steady_group groupName later
  | named groupName child =>
      rw [pattern, List.append_assoc]
      exact steady_group groupName (steady_patternItem child later)
  | _ => simp [pattern, List.append_assoc]

theorem steady_patternItem (item : PatternItem) {rest : List Piece} (later : steady rest = true) :
    steady (patternItem item ++ rest) = true := by
  cases item with
  | pattern nested => exact steady_pattern nested later
  | value literal => rfl
  | _ => simp [patternItem, later]

end

theorem steady_type (found : TypeRef) (later : steady rest = true) :
    steady (type policy frames found ++ rest) = true := by
  cases found with
  | primitive keyword => rfl
  | simple name typeArguments => simp [type, List.append_assoc]
  | member target isDoubleColon memberName typeArguments =>
      cases isDoubleColon <;> simp [type, List.append_assoc]
  | composed baseType nullable pointerRank arraySpecifiers =>
      have pointers : steady ((List.replicate pointerRank.toNat (symbol .pointer "*")).flatten ++
          (visitAll (Node.ofSpecifiers arraySpecifiers) ++ rest)) = true := by
        cases pointerRank.toNat with
        | zero => simp [later]
        | succ count => rfl
      cases nullable <;> simp [type, List.append_assoc, pointers]
  | pattern placeholder => exact steady_pattern placeholder later

theorem steady_arrayInitializer (initializer : ArrayInitializer) (later : steady rest = true) :
    steady (arrayInitializer policy frames initializer ++ rest) = true :=
  steady_ite (by simp [later]) (by simp [initializerElements])

@[simp] theorem steady_around (spaced : Bool) (role : TokenRole) (text : String) (rest : List Piece) :
    steady (around spaced role text ++ rest) = true := by
  simp [around, List.append_assoc]

@[simp] theorem steady_spacedWord (text : String) (rest : List Piece) :
    steady (spacedWord text ++ rest) = true := by
  simp [spacedWord, List.append_assoc]

@[simp] theorem steady_callArguments (arguments : List Expression) (rest : List Piece) :
    steady (callArguments policy arguments ++ rest) = true := by
  simp [callArguments, List.append_assoc]

@[simp] theorem steady_parameterList (parameters : List Parameter) (rest : List Piece) :
    steady (parameterList policy parameters ++ rest) = true := steady_parenthesizedList _ _ _ _

@[simp] theorem steady_assigned (value : Option Expression) (later : steady rest = true) :
    steady (assigned policy value ++ rest) = true := by
  cases value with
  | none => exact later
  | some found => simp [assigned, List.append_assoc]

theorem steady_lambda (isAsync : Bool) (parameters : List Parameter) (body : LambdaBody) (rest : List Piece) :
    steady (lambda policy isAsync parameters body ++ rest) = true := by
  simp only [lambda, List.append_assoc]
  refine steady_ite rfl (steady_ite ?_ ?_)
  · exact steady_commaSeparated policy _ (by simp)
  · simp

theorem steady_unary (operator : UnaryOperator) (operand : Expression) (rest : List Piece) :
    steady (unary operator operand ++ rest) = true := by
  unfold unary
  split
  · rfl
  · exact steady_ite (by simp [List.append_assoc]) rfl

/-- The clauses of a query inside a clause are indented, but the first of them begins with a keyword. -/
theorem steady_query (found : Query) (rest : List Piece) : steady (query frames found ++ rest) = true := by
  unfold query
  split
  · rfl
  · simp only [List.append_assoc]
    exact steady_ite rfl rfl

theorem steady_expression (found : Expression) (later : steady rest = true) :
    steady (expression policy frames found ++ rest) = true := by
  cases found with
  | anonymousMethod isAsync hasParameterList parameters body =>
      cases isAsync <;> simp [expression, List.append_assoc]
  | arrayInitializer initializer => exact steady_arrayInitializer policy frames initializer later
  | lambda isAsync parameters body => exact steady_lambda policy isAsync parameters body rest
  | unary operator operand => exact steady_unary operator operand rest
  | query found => exact steady_query frames found rest
  | pattern placeholder => exact steady_pattern placeholder later
  | _ => simp [expression, call, memberAccess, Event.isToken, List.append_assoc, later]

theorem steady_variableDeclaration (declaration : VariableDeclaration) (later : steady rest = true) :
    steady (variableDeclaration policy frames declaration ++ rest) = true :=
  steady_ite rfl (by simp [List.append_assoc, later])

theorem steady_statement (found : Statement) (later : steady rest = true) :
    steady (statement policy frames found ++ rest) = true := by
  cases found with
  | fixed variableType declarators body => exact steady_ite rfl rfl
  | forLoop initializers condition iterators body => exact steady_ite rfl rfl
  | localVariables declaration => exact steady_variableDeclaration policy frames declaration later
  | pattern placeholder => exact steady_pattern placeholder later
  | _ =>
      simp [statement, header, block, wordAndValue, comment, directive, Event.isToken,
        List.append_assoc, later]

/-- The statements of a section are indented, but a label stands before them. -/
theorem steady_switchSection (found : SwitchSection) (rest : List Piece) :
    steady (switchSection policy found ++ rest) = true := by
  unfold switchSection
  cases found.labels with
  | nil => rfl
  | cons label labels => cases labels <;> rfl

theorem steady_namespaceMembers (members : List NamespaceMember) (later : steady rest = true) :
    steady (namespaceMembers policy members ++ rest) = true := by
  induction members with
  | nil => exact later
  | cons member members ih =>
      simp only [namespaceMembers, List.append_assoc, steady_visit, Bool.or_eq_true]
      exact .inr (steady_ite (by simp [ih]) ih)

@[simp] theorem steady_leading (attributes : List AttributeSection) (listed : List Modifier)
    (later : steady rest = true) :
    steady (leading attributes listed ++ rest) = true := by
  simp [leading, List.append_assoc, later]

@[simp] theorem steady_typedVariables (type : TypeRef) (declarators : List Node)
    (later : steady rest = true) :
    steady (typedVariables policy frames type declarators ++ rest) = true := by
  simp [typedVariables, List.append_assoc, later]

theorem steady_operator (declaration : OperatorDeclaration) (rest : List Piece) :
    steady (operator policy frames declaration ++ rest) = true := by
  simp only [operator, List.append_assoc]
  refine steady_leading _ _ ?_
  cases declaration.operator.token? <;> simp [List.append_assoc]

@[simp] theorem steady_explicitInterface (found : Option TypeRef) (later : steady rest = true) :
    steady (explicitInterface found ++ rest) = true := by
  cases found <;> simp [explicitInterface, List.append_assoc, later]

theorem steady_parameter (found : Parameter) (later : steady rest = true) :
    steady (parameter policy frames found ++ rest) = true := by
  cases modifier : found.modifier <;> cases name : found.name <;>
    simp [parameter, parameterModifier, modifier, name, List.append_assoc, later]

theorem steady_typeParameter (found : TypeParameter) (rest : List Piece) :
    steady (typeParameter frames found ++ rest) = true := by
  cases variance : found.variance <;> simp [typeParameter, variance, List.append_assoc]

theorem steady_referencedOperator (reference : DocumentationReference) (rest : List Piece) :
    steady (referencedOperator reference ++ rest) = true := by
  unfold referencedOperator
  split
  · rfl
  · split <;> rfl

theorem steady_referencedSymbol (reference : DocumentationReference) (later : steady rest = true) :
    steady (referencedSymbol frames reference ++ rest) = true := by
  cases kind : reference.symbolKind with
  | typeDefinition =>
      simp only [referencedSymbol, kind]
      exact steady_ite rfl later
  | indexer => simp [referencedSymbol, kind]
  | operator =>
      simp only [referencedSymbol, kind]
      exact steady_referencedOperator reference rest
  | _ =>
      cases found : reference.memberName with
      | none =>
          simp only [referencedSymbol, kind, found]
          rfl
      | some name =>
          simp only [referencedSymbol, kind, found]
          exact steady_identifier frames name _ rest

theorem steady_documentationReference (reference : DocumentationReference) (later : steady rest = true) :
    steady (documentationReference policy frames reference ++ rest) = true := by
  have parameters (listed : List Node) (within before : Bool) :
      steady ((if !reference.hasParameterList then hide listed
      else spaceIf before ++ (if reference.symbolKind = .indexer then bracketedList policy within listed
        else parenthesizedList policy within listed)) ++ rest) = true := by
    refine steady_ite (by simp [later]) ?_
    rw [List.append_assoc, steady_spaceIf]
    exact steady_ite (by simp) (by simp)
  have named :=
    steady_referencedSymbol frames reference (steady_chevronList policy (Node.ofTypes reference.typeArguments)
    (parameters (Node.ofParameters reference.parameters) (policy.spacing .withinMethodDeclarationParentheses)
      (policy.spacing .beforeMethodDeclarationParentheses)))
  simp only [documentationReference, List.append_assoc, steady_visitAll, Bool.or_eq_true]
  exact .inr (steady_ite rfl named)

theorem steady_queryClause (clause : QueryClause) (rest : List Piece) :
    steady (queryClause policy frames clause ++ rest) = true := by
  cases clause <;> rfl

theorem steady_plan (node : Node) (later : steady rest = true) :
    steady (plan policy frames node ++ rest) = true := by
  cases node with
  | syntaxTree tree => exact steady_namespaceMembers policy tree.members later
  | type found => exact steady_type policy frames found later
  | expression found => exact steady_expression policy frames found later
  | arrayInitializer initializer => exact steady_arrayInitializer policy frames initializer later
  | query found => exact steady_query frames found rest
  | statement found => exact steady_statement policy frames found later
  | block found => exact steady_statement policy frames (.block found) later
  | variableDeclaration declaration => exact steady_variableDeclaration policy frames declaration later
  | switchSection found => exact steady_switchSection policy found rest
  | comment found => exact steady_statement policy frames (.comment found) later
  | directive found => exact steady_statement policy frames (.directive found) later
  | pattern placeholder => exact steady_pattern placeholder later
  | attributeUse use =>
      simp only [plan, attributeUse, List.append_assoc, steady_visit, Bool.or_eq_true]
      exact .inr (steady_ite (by simp) later)
  | field declaration => exact steady_ite rfl (by simp [List.append_assoc, later])
  | fixedField declaration => exact steady_ite rfl (by simp [List.append_assoc])
  | event declaration => exact steady_ite rfl (by simp [List.append_assoc])
  | accessor found => exact steady_ite rfl (by simp [List.append_assoc])
  | arraySpecifier specifier => exact steady_ite rfl rfl
  | operator declaration => exact steady_operator policy frames declaration rest
  | parameter found => exact steady_parameter policy frames found later
  | typeParameter found => exact steady_typeParameter frames found rest
  | documentationReference reference => exact steady_documentationReference policy frames reference later
  | queryClause clause => exact steady_queryClause policy frames clause rest
  | queryOrdering ordering =>
      cases direction : ordering.direction <;> simp [plan, queryOrdering, direction, List.append_assoc, later]
  | caseLabel label =>
      cases expression : label.expression <;> simp [plan, caseLabel, expression, List.append_assoc]
  | catchClause clause =>
      cases expression : clause.catchType <;> simp [plan, catchClause, header, expression, List.append_assoc]
  | _ =>
      simp [plan, namespaceDeclaration, usingDeclaration, usingAlias, externAlias, typeDeclaration, delegate,
        attributeSection, fixedVariable, method, constructor, constructorInitializer, destructor,
        property, indexer, customEvent, enumMember, constraint, variableInitializer, List.append_assoc]

theorem firm_plan {node : Node} (starts : startsFirm node = true) :
    firm (plan policy frames node) = true := by
  cases node with
  | caseLabel label => cases expression : label.expression <;> simp [plan, caseLabel, expression] <;> rfl
  | queryClause clause => cases clause <;> rfl
  | query found =>
      simp only [plan, query]
      split
      · rfl
      · cases isNestedQuery frames <;> rfl
  | _ => cases starts

end Plans

section Steps

variable {policy : Policy} {node : Node} {address : List Nat} {above : Frames}

theorem partSteps_firm
    (children : ∀ slot, ∀ child ∈ node.children, ∀ atLineStart, startsFirm child = true →
      firstFault? (steps policy child (slot :: address) (⟨node, address⟩ :: above)) = none →
      isFirm (settled atLineStart (steps policy child (slot :: address) (⟨node, address⟩ :: above))) = true)
    {pieces : List Piece} (begins : firm pieces = true) (slot : Nat)
    (taken : (held pieces).map Prod.snd = node.children.drop slot)
    (sound : firstFault? (partSteps policy node address above slot pieces) = none) (atLineStart : Bool) :
    isFirm (settled atLineStart (partSteps policy node address above slot pieces)) = true := by
  induction pieces generalizing slot atLineStart with
  | nil => cases begins
  | cons piece rest ih =>
      obtain ⟨first, others⟩ := firstFault?_partSteps_cons sound
      rw [partSteps_cons, settled_append]
      cases piece with
      | event event =>
          cases token : event.isToken with
          | true =>
              have plain : event.isDirective = false := by simpa [firm, token] using begins
              simp [pieceSteps, settled, isFirm, token, plain]
          | false =>
              have later : firm rest = true := by simpa [firm, token] using begins
              exact (isFirm_cons_of_silent token _).trans (ih later slot taken others _)
      | gap => cases atLineStart <;> exact ih begins slot taken others _
      | freshLine => cases atLineStart <;> exact ih begins slot taken others _
      | problem problem => simp [pieceSteps] at first
      | hidden found =>
          obtain ⟨_, _, later⟩ := drop_eq_cons taken
          exact ih begins _ later others _
      | child found =>
          obtain ⟨present, rfl, _⟩ := drop_eq_cons taken
          simp only [pieceSteps, if_pos present] at first ⊢
          exact isFirm_append_of_firm (children slot _ (List.getElem_mem present) atLineStart begins first) _

theorem steps_firm (starts : startsFirm node = true)
    (sound : firstFault? (steps policy node address above) = none) (atLineStart : Bool) :
    isFirm (settled atLineStart (steps policy node address above)) = true := by
  induction node, address, above using steps_induct generalizing atLineStart with
  | visit node address above ih =>
      rw [firstFault?_steps] at sound
      have inside := partSteps_firm
        (fun slot child member atLineStart starts sound => ih slot child member starts sound atLineStart)
        (firm_plan policy _ starts) 0 (taken_of_sound sound) sound atLineStart
      rw [settled_steps, isFirm_cons_of_silent rfl]
      exact isFirm_append_of_firm inside _

theorem partSteps_steady
    (children : ∀ slot, ∀ child ∈ node.children, ∀ atLineStart,
      firstFault? (steps policy child (slot :: address) (⟨node, address⟩ :: above)) = none →
      Steady (settled atLineStart (steps policy child (slot :: address) (⟨node, address⟩ :: above))))
    {pieces : List Piece} (calm : steady pieces = true) (slot : Nat)
    (taken : (held pieces).map Prod.snd = node.children.drop slot)
    (sound : firstFault? (partSteps policy node address above slot pieces) = none) (atLineStart : Bool) :
    Steady (settled atLineStart (partSteps policy node address above slot pieces)) := by
  induction pieces generalizing slot atLineStart with
  | nil => exact fun _ _ => rfl
  | cons piece rest ih =>
      obtain ⟨first, others⟩ := firstFault?_partSteps_cons sound
      rw [partSteps_cons, settled_append]
      cases piece with
      | event event =>
          cases token : event.isToken with
          | true => exact .of_token token _
          | false =>
              cases shift : event.isIndent || event.isUnindent with
              | true =>
                  have begins : firm rest = true := by simpa [steady, token, shift] using calm
                  have later :=
                    partSteps_firm (fun _ _ _ atLineStart starts sound => steps_firm starts sound atLineStart)
                    begins slot taken others (event.lineStartAfter atLineStart)
                  exact .of_firm ((isFirm_cons_of_silent token _).trans later)
              | false =>
                  have calm' : steady rest = true := by simpa [steady, token, shift] using calm
                  exact .cons shift (ih calm' slot taken others _)
      | gap =>
          have later := ih calm slot taken others
          cases atLineStart with
          | true => exact later true
          | false => exact .cons rfl (later false)
      | freshLine =>
          have later := ih calm slot taken others true
          cases atLineStart with
          | true => exact later
          | false => exact .cons rfl later
      | problem problem => simp [pieceSteps] at first
      | hidden found =>
          obtain ⟨_, _, later⟩ := drop_eq_cons taken
          exact ih calm _ later others _
      | child found =>
          obtain ⟨present, rfl, later⟩ := drop_eq_cons taken
          simp only [pieceSteps, if_pos present] at first ⊢
          rcases Bool.or_eq_true_iff.mp calm with starts | calm
          · exact .of_firm (isFirm_append_of_firm (steps_firm starts first atLineStart) _)
          · exact .append (steps_balanced policy _ _ _ atLineStart)
              (children slot _ (List.getElem_mem present) atLineStart first) (ih calm _ later others _)

/-- A node is steady once its children are. -/
theorem body_steady_of_children
    (children : ∀ slot, ∀ child ∈ node.children, ∀ atLineStart,
      firstFault? (steps policy child (slot :: address) (⟨node, address⟩ :: above)) = none →
      Steady (settled atLineStart (steps policy child (slot :: address) (⟨node, address⟩ :: above))))
    (sound : firstFault?
      (partSteps policy node address above 0 (plan policy (⟨node, address⟩ :: above) node)) = none)
    (atLineStart : Bool) :
    Steady (settled atLineStart
      (partSteps policy node address above 0 (plan policy (⟨node, address⟩ :: above) node))) := by
  have calm : steady (plan policy (⟨node, address⟩ :: above) node ++ []) = true :=
    steady_plan policy _ node rfl
  rw [List.append_nil] at calm
  exact partSteps_steady children calm 0 (taken_of_sound sound) sound atLineStart

theorem steps_steady (sound : firstFault? (steps policy node address above) = none) (atLineStart : Bool) :
    Steady (settled atLineStart (steps policy node address above)) := by
  induction node, address, above using steps_induct generalizing atLineStart with
  | visit node address above ih =>
      rw [firstFault?_steps] at sound
      have inside := body_steady_of_children
        (fun slot child member atLineStart sound => ih slot child member sound atLineStart) sound atLineStart
      rw [settled_steps]
      exact .cons rfl (.append (body_balanced policy node address above atLineStart) inside (.still rfl))

end Steps

end Layout

theorem events_steady {policy : Policy} {node : Node} {found : List Event}
    (printed : events policy node = .ok found) :
    Nested (fun _ _ body => Balanced body ∧ Steady body) [node] found := by
  obtain ⟨sound, rfl⟩ := events_eq_ok printed
  refine Layout.steps_nested (fun node address above atLineStart sound => ⟨?_, ?_⟩) sound true
  · exact Layout.body_balanced policy node address above atLineStart
  · exact Layout.body_steady_of_children
      (fun _ _ _ atLineStart sound => Layout.steps_steady sound atLineStart)
      sound atLineStart

end CSharpLayout
