import CSharpLayout.Layout.Slots

/-! Where a plan stops. Most parts of a plan hold no problem; the others hold one exactly if a name is empty
or a list has no items, or has items that do not belong in it. -/

namespace CSharpLayout

namespace Layout

section Pieces

@[simp] theorem flawed_nil : flawed [] = false := rfl

@[simp] theorem flawed_event (event : Event) (rest : List Piece) :
    flawed (.event event :: rest) = flawed rest := rfl

@[simp] theorem flawed_word (text : String) : flawed (word text) = false := rfl

@[simp] theorem flawed_symbol (role : TokenRole) (text : String) : flawed (symbol role text) = false := rfl

@[simp] theorem flawed_space : flawed space = false := rfl

@[simp] theorem flawed_spaceIf (wanted : Bool) : flawed (spaceIf wanted) = false := by cases wanted <;> rfl

@[simp] theorem flawed_newline : flawed newline = false := rfl

@[simp] theorem flawed_newlines (count : Nat) : flawed (newlines count) = false := by
  simp [flawed, newlines, Piece.isProblem]

@[simp] theorem flawed_indent : flawed indent = false := rfl

@[simp] theorem flawed_unindent : flawed unindent = false := rfl

@[simp] theorem flawed_visit (node : Node) : flawed (visit node) = false := rfl

@[simp] theorem flawed_visitAll (nodes : List Node) : flawed (visitAll nodes) = false := by
  simp [flawed, visitAll, Piece.isProblem]

@[simp] theorem flawed_hide (nodes : List Node) : flawed (hide nodes) = false := by
  simp [flawed, hide, Piece.isProblem]

@[simp] theorem flawed_identifier (frames : Frames) (name : Identifier) (tokenClass : TokenClass) :
    flawed (identifier frames name tokenClass) = name.name.isEmpty := by
  cases empty : name.name.isEmpty <;> simp [identifier, empty]

@[simp] theorem flawed_rawIdentifier (text : String) (tokenClass : TokenClass) :
    flawed (rawIdentifier text tokenClass) = false := rfl

@[simp] theorem flawed_modifiers (listed : List Modifier) : flawed (modifiers listed) = false := by
  induction listed with
  | nil => rfl
  | cons modifier rest ih => simpa [modifiers, word] using ih

@[simp] theorem flawed_comma (policy : Policy) (tight : Bool) : flawed (comma policy tight) = false := by
  simp [comma]

@[simp] theorem flawed_semicolon (frames : Frames) : flawed (semicolon frames) = false := by
  unfold semicolon
  split <;> rfl

@[simp] theorem flawed_commaSeparated (policy : Policy) (nodes : List Node) :
    flawed (commaSeparated policy nodes) = false := by
  fun_induction commaSeparated policy nodes with
  | case1 => rfl
  | case2 node => rfl
  | case3 node rest _ ih => simp [ih]

@[simp] theorem flawed_inParentheses (within : Bool) (body : List Piece) :
    flawed (inParentheses within body) = flawed body := by
  simp [inParentheses, enclosed]

@[simp] theorem flawed_inBrackets (within : Bool) (body : List Piece) :
    flawed (inBrackets within body) = flawed body := by
  simp [inBrackets, enclosed]

@[simp] theorem flawed_parenthesizedList (policy : Policy) (within : Bool) (nodes : List Node) :
    flawed (parenthesizedList policy within nodes) = false := by
  simp [parenthesizedList]

@[simp] theorem flawed_bracketedList (policy : Policy) (within : Bool) (nodes : List Node) :
    flawed (bracketedList policy within nodes) = false := by
  simp [bracketedList]

@[simp] theorem flawed_chevronList (policy : Policy) (nodes : List Node) :
    flawed (chevronList policy nodes) = false := by
  cases nodes with
  | nil => rfl
  | cons node rest => simp [chevronList]

theorem flawed_ite {condition : Prop} [Decidable condition] {left right : List Piece}
    (first : flawed left = false) (second : flawed right = false) :
    flawed (if condition then left else right) = false := by
  split
  · exact first
  · exact second

end Pieces

section Types

@[simp] theorem flawed_group (name : Option String) : flawed (group name) = false := by
  cases name with
  | none => rfl
  | some text => exact flawed_ite rfl rfl

@[simp] theorem flawed_bounds (min : UInt32) (max : Option UInt32) : flawed (bounds min max) = false :=
  flawed_ite rfl (by simp)

mutual

@[simp] theorem flawed_pattern (found : Pattern) : flawed (pattern found) = false := by
  cases found with
  | any groupName => simp [pattern]
  | backreference groupName => simp [pattern]
  | identifierBackreference groupName => simp [pattern]
  | choice alternatives => simp [pattern, flawed_patternAlternatives alternatives]
  | named groupName child => simp [pattern, flawed_patternItem child]
  | repeated min max child => simp [pattern, flawed_patternItem child]
  | optional child => simp [pattern, flawed_patternItem child]

theorem flawed_patternItem (item : PatternItem) : flawed (patternItem item) = false := by
  cases item with
  | pattern nested => simp [patternItem, flawed_pattern nested]
  | type found => simp [patternItem]
  | expression found => simp [patternItem]
  | statement found => simp [patternItem]
  | value literal => simp [patternItem]

theorem flawed_patternAlternatives (items : List PatternItem) :
    flawed (patternAlternatives items) = false := by
  match items with
  | [] => rfl
  | [item] => simp [patternAlternatives, flawed_patternItem item]
  | item :: next :: rest =>
      have others := flawed_patternAlternatives (next :: rest)
      simp only [patternAlternatives] at others ⊢
      simp [flawed_patternItem item, others]

end

theorem flawed_symbols (count : Nat) (role : TokenRole) (text : String) :
    flawed (List.replicate count (symbol role text)).flatten = false := by
  induction count with
  | zero => rfl
  | succ count ih => simpa [List.replicate_succ] using ih

theorem flawed_arraySpecifier (specifier : ArraySpecifier) :
    flawed (arraySpecifier specifier) = decide (specifier.dimensions = 0) := by
  by_cases none : specifier.dimensions = 0
  · simp [arraySpecifier, none]
  · simp [arraySpecifier, none, flawed_symbols]

end Types

section Expressions

@[simp] theorem flawed_around (spaced : Bool) (role : TokenRole) (text : String) :
    flawed (around spaced role text) = false := by
  simp [around]

@[simp] theorem flawed_assigned (policy : Policy) (value : Option Expression) :
    flawed (assigned policy value) = false := by
  cases value with
  | none => rfl
  | some found => simp [assigned]

@[simp] theorem flawed_parameterList (policy : Policy) (parameters : List Parameter) :
    flawed (parameterList policy parameters) = false := by
  simp [parameterList]

@[simp] theorem flawed_callArguments (policy : Policy) (arguments : List Expression) :
    flawed (callArguments policy arguments) = false := by
  simp [callArguments]

theorem flawed_elementLines (policy : Policy) (trailingComma : Bool) (nodes : List Node) :
    flawed (elementLines policy trailingComma nodes) = false := by
  fun_induction elementLines policy trailingComma nodes with
  | case1 => rfl
  | case2 node => cases trailingComma <;> simp
  | case3 node rest _ ih => simp [ih]

@[simp] theorem flawed_initializerElements (policy : Policy) (elements : List Expression)
    (trailingComma : Bool) :
    flawed (initializerElements policy elements trailingComma) = false := by
  simp [initializerElements, flawed_elementLines]

@[simp] theorem flawed_arrayInitializer (policy : Policy) (frames : Frames) (initializer : ArrayInitializer) :
    flawed (arrayInitializer policy frames initializer) = false :=
  flawed_ite (flawed_visitAll _) (flawed_initializerElements policy _ _)

@[simp] theorem flawed_lambda (policy : Policy) (isAsync : Bool) (parameters : List Parameter)
    (body : LambdaBody) :
    flawed (lambda policy isAsync parameters body) = false := by
  have listed :
      flawed (if isBareParameter parameters then commaSeparated policy (Node.ofParameters parameters)
      else parameterList policy parameters) = false :=
    flawed_ite (flawed_commaSeparated policy _) (flawed_parameterList policy _)
  cases body with
  | expression found => cases isAsync <;> simp [lambda, listed]
  | block found => cases isAsync <;> simp [lambda, listed]

theorem flawed_clauseLines (clauses : List QueryClause) : flawed (clauseLines clauses) = false := by
  induction clauses with
  | nil => rfl
  | cons clause rest ih => cases clause <;> simp [clauseLines, ih]

@[simp] theorem flawed_query (frames : Frames) (found : Query) :
    flawed (query frames found) = found.clauses.isEmpty := by
  unfold query
  split
  next none => simp [none]
  next first rest clauses =>
    simp only [clauses, flawed_append, flawed_visit, flawed_clauseLines]
    split <;> simp

@[simp] theorem flawed_spacedWord (text : String) : flawed (spacedWord text) = false := rfl

theorem flawed_queryOrdering (ordering : QueryOrdering) : flawed (queryOrdering ordering) = false := by
  cases direction : ordering.direction <;> simp [queryOrdering, direction]

@[simp] theorem flawed_call (policy : Policy) (keyword : String) (within : SpaceSite) (node : Node) :
    flawed (call policy keyword within node) = false := by
  simp [call]

@[simp] theorem flawed_memberAccess (policy : Policy) (frames : Frames) (target : Expression)
    (role : TokenRole) (text : String) (name : Identifier) (typeArguments : List TypeRef) :
    flawed (memberAccess policy frames target (symbol role text) name typeArguments) = name.name.isEmpty := by
  simp [memberAccess]

@[simp] theorem flawed_unary (operator : UnaryOperator) (operand : Expression) :
    flawed (unary operator operand) = false := by
  unfold unary
  split
  · simp
  · exact flawed_ite rfl rfl

end Expressions

section Statements

@[simp] theorem flawed_embedded (body : Statement) : flawed (embedded body) = false := by
  cases body <;> simp [embedded]

@[simp] theorem flawed_header (policy : Policy) (keyword : String) (before within : SpaceSite)
    (body : List Piece) : flawed (header policy keyword before within body) = flawed body := by
  simp [header]

@[simp] theorem flawed_block (policy : Policy) (frames : Frames) (found : Block) :
    flawed (block policy frames found) = false := by
  unfold block
  split <;> simp

@[simp] theorem flawed_variableDeclaration (policy : Policy) (frames : Frames)
    (declaration : VariableDeclaration) :
    flawed (variableDeclaration policy frames declaration) = declaration.declarators.isEmpty := by
  cases none : declaration.declarators.isEmpty <;> simp [variableDeclaration, none]

@[simp] theorem flawed_comment (found : Comment) : flawed (comment found) = false := by
  unfold comment
  split <;> rfl

@[simp] theorem flawed_directive (found : Directive) : flawed (directive found) = false := rfl

theorem flawed_forLoop (policy : Policy) (initializers : List Statement) (condition : Option Expression)
    (iterators : List Statement) (body : Statement) :
    flawed (forLoop policy initializers condition iterators body) =
      !(initializers.all fitsHeader && iterators.all fitsHeader) := by
  have iterated : flawed (if iterators.isEmpty then [] else spaceIf (policy.spacing .afterForSemicolon) ++
      commaSeparated policy (Node.ofStatements iterators)) = false :=
    flawed_ite rfl (by simp)
  unfold forLoop
  split
  next unfit => rw [unfit]; rfl
  next fits =>
    rw [Bool.not_eq_true] at fits
    rw [fits]
    simp only [flawed_append, flawed_header, flawed_commaSeparated, flawed_spaceIf, flawed_symbol, iterated,
      flawed_embedded]
    cases condition <;> simp

@[simp] theorem flawed_elseBranch (whenFalse : Option Statement) : flawed (elseBranch whenFalse) = false := by
  cases whenFalse with
  | none => rfl
  | some body => cases body <;> simp [elseBranch]

@[simp] theorem flawed_switchBody (policy : Policy) (sections : List SwitchSection) :
    flawed (switchBody policy sections) = false := by
  cases indented : policy.indentation.switchBody <;> simp [switchBody, indented]

@[simp] theorem flawed_wordAndValue (keyword : String) (value : Option Expression) :
    flawed (wordAndValue keyword value) = false := by
  cases value <;> simp [wordAndValue]

@[simp] theorem flawed_lines (nodes : List Node) : flawed (lines nodes) = false := by
  fun_induction lines nodes with
  | case1 => rfl
  | case2 node => rfl
  | case3 node rest _ ih => simp [ih]

theorem flawed_switchSection (policy : Policy) (found : SwitchSection) :
    flawed (switchSection policy found) = found.labels.isEmpty := by
  cases none : found.labels.isEmpty with
  | true => simp [switchSection, none]
  | false =>
      simp only [switchSection, none, Bool.false_eq_true, if_false, flawed_append, flawed_lines,
        Bool.false_or]
      refine flawed_ite (flawed_visitAll _) (flawed_ite ?_ ?_)
      · simp
      · simp

end Statements

section Declarations

@[simp] theorem flawed_namespaceMembers (policy : Policy) (members : List NamespaceMember) :
    flawed (namespaceMembers policy members) = false := by
  induction members with
  | nil => rfl
  | cons member rest ih =>
      simp only [namespaceMembers, flawed_append, flawed_visit, ih]
      split <;> simp

@[simp] theorem flawed_afterBody (trailingSemicolon : Bool) :
    flawed (afterBody trailingSemicolon) = false := by
  cases trailingSemicolon <;> rfl

theorem flawed_enumBody (policy : Policy) (trailingComma : Bool) (members : List TypeMember) :
    flawed (enumBody policy trailingComma members) =
      members.any fun member => !(isEnumMember member || isTrivia member) := by
  induction members with
  | nil => rfl
  | cons member rest ih =>
      simp only [enumBody, flawed_append, ih, List.any_cons]
      congr 1
      cases kind : isEnumMember member with
      | true =>
          simp only [if_true]
          split <;> simp
      | false => cases trivia : isTrivia member <;> simp

theorem flawed_typeBody (policy : Policy) (afterMember : Bool) (members : List TypeMember) :
    flawed (typeBody policy afterMember members) = members.any isEnumMember := by
  induction members generalizing afterMember with
  | nil => rfl
  | cons member rest ih =>
      cases kind : isEnumMember member <;> cases afterMember <;> simp [typeBody, kind, ih]

@[simp] theorem flawed_afterColon (policy : Policy) (nodes : List Node) :
    flawed (afterColon policy nodes) = false := by
  simp [afterColon]

@[simp] theorem flawed_leading (attributes : List AttributeSection) (listed : List Modifier) :
    flawed (leading attributes listed) = false := by
  simp [leading]

theorem flawed_attributeSection (policy : Policy) (frames : Frames) (found : AttributeSection) :
    flawed (attributeSection policy frames found) = false := by
  have target : flawed (attributeTarget found.target) = false := by
    cases found.target with
    | none => rfl
    | some text => exact flawed_ite rfl rfl
  unfold attributeSection
  split <;> simp [target]

theorem flawed_attributeUse (policy : Policy) (use : Attribute) :
    flawed (attributeUse policy use) = false := by
  unfold attributeUse
  rw [flawed_append, flawed_visit, Bool.false_or]
  exact flawed_ite (flawed_callArguments policy _) rfl

@[simp] theorem flawed_typedVariables (policy : Policy) (frames : Frames) (type : TypeRef)
    (declarators : List Node) : flawed (typedVariables policy frames type declarators) = false := by
  simp [typedVariables]

@[simp] theorem flawed_explicitInterface (found : Option TypeRef) :
    flawed (explicitInterface found) = false := by
  cases found <;> simp [explicitInterface]

@[simp] theorem flawed_memberBody (frames : Frames) (body : Option Block) :
    flawed (memberBody frames body) = false := by
  cases body <;> simp [memberBody]

@[simp] theorem flawed_accessorList (policy : Policy) (site : BraceSite) (accessors : List Accessor) :
    flawed (accessorList policy site accessors) = false := by
  simp [accessorList]

@[simp] theorem flawed_parameterModifier (modifier : ParameterModifier) :
    flawed (parameterModifier modifier) = false := by
  cases modifier <;> rfl

theorem flawed_operator (policy : Policy) (frames : Frames) (declaration : OperatorDeclaration) :
    flawed (operator policy frames declaration) = false := by
  cases token : declaration.operator.token? <;> simp [operator, token]

/-- A reference to an operator has to name one, and a conversion has to name what it converts to. -/
theorem flawed_referencedOperator (reference : DocumentationReference) :
    flawed (referencedOperator reference) =
      (reference.operator.isNone ||
        (reference.operator.any (·.isConversion) && reference.conversionReturnType.isNone)) := by
  obtain ⟨_, _, _, operator, returnType, _⟩ := reference
  cases operator with
  | none => rfl
  | some operator =>
      cases token : operator.token? with
      | some text => simp [referencedOperator, token, isConversion_eq]
      | none => cases returnType <;> simp [referencedOperator, token, isConversion_eq]

end Declarations

end Layout

end CSharpLayout
