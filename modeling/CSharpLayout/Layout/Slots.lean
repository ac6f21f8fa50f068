import CSharpLayout.Layout.Plan

/-! Which children a plan prints. Unless it stops at a problem, a plan takes all children of its node, in
order, and leaves out only parameters that are not listed and return types of operators that convert
nothing. -/

namespace CSharpLayout

namespace Node

def visibleChildren : Node → List Node
  | .expression (.anonymousMethod _ hasParameterList parameters body) =>
      (if hasParameterList then ofParameters parameters else []) ++ [.block body]
  | .documentationReference reference =>
      ofType? reference.declaringType ++
        (if reference.symbolKind = .operator ∧ reference.operator.any (·.isConversion) = true then
          ofType? reference.conversionReturnType
        else []) ++
        ofTypes reference.typeArguments ++
        (if reference.hasParameterList then ofParameters reference.parameters else [])
  | node => node.children

def markedChildren : Node → List (Bool × Node)
  | .expression (.anonymousMethod _ hasParameterList parameters body) =>
      (ofParameters parameters).map (hasParameterList, ·) ++ [(true, .block body)]
  | .documentationReference reference =>
      (ofType? reference.declaringType).map (true, ·) ++
        (if reference.symbolKind = .operator then
          (ofType? reference.conversionReturnType).map (reference.operator.any (·.isConversion), ·)
        else []) ++
        (ofTypes reference.typeArguments).map (true, ·) ++
        (ofParameters reference.parameters).map (reference.hasParameterList, ·)
  | node => node.children.map (true, ·)

end Node

def chosen (marked : List (Bool × Node)) : List Node := (marked.filter Prod.fst).map Prod.snd

@[simp] theorem chosen_append (left right : List (Bool × Node)) :
    chosen (left ++ right) = chosen left ++ chosen right := by simp [chosen]

@[simp] theorem chosen_map (mark : Bool) (nodes : List Node) :
    chosen (nodes.map (mark, ·)) = if mark then nodes else [] := by
  cases mark with
  | false => simp [chosen, List.filter_map, Function.comp_def]
  | true => simp [chosen, List.filter_map, Function.comp_def]

namespace Node

theorem markedChildren_snd (node : Node) : node.markedChildren.map Prod.snd = node.children := by
  unfold markedChildren
  split
  · simp [children, childrenOfExpression, Function.comp_def]
  · simp only [children, List.map_append, List.map_map, Function.comp_def, List.map_id']
    split
    · simp [Function.comp_def]
    · simp
  · simp [Function.comp_def]

theorem chosen_markedChildren (node : Node) : chosen node.markedChildren = node.visibleChildren := by
  unfold markedChildren visibleChildren
  split
  · rw [chosen_append, chosen_map]
    rfl
  next reference =>
    simp only [chosen_append, chosen_map, if_true]
    by_cases operator : reference.symbolKind = .operator
    · simp only [operator, if_true, true_and, chosen_map]
    · simp only [operator, if_false, false_and]
      rfl
  · simp

theorem mem_children_of_visible {node child : Node} (visible : child ∈ node.visibleChildren) :
    child ∈ node.children := by
  rw [← chosen_markedChildren] at visible
  rw [← markedChildren_snd]
  obtain ⟨marked, kept, rfl⟩ := List.mem_map.mp visible
  exact List.mem_map_of_mem (List.mem_filter.mp kept).1

end Node

def Piece.mark? : Piece → Option (Bool × Node)
  | .child node => some (true, node)
  | .hidden node => some (false, node)
  | _ => none

def Piece.isProblem : Piece → Bool
  | .problem _ => true
  | _ => false

namespace Layout

/-- The children that pieces take, each with whether it is printed. -/
def held (pieces : List Piece) : List (Bool × Node) := pieces.filterMap Piece.mark?

def flawed (pieces : List Piece) : Bool := pieces.any Piece.isProblem

def shown (nodes : List Node) : List (Bool × Node) := nodes.map (true, ·)

section Pieces

@[simp] theorem shown_nil : shown [] = [] := rfl

@[simp] theorem shown_cons (node : Node) (rest : List Node) :
    shown (node :: rest) = (true, node) :: shown rest := rfl

@[simp] theorem shown_append (left right : List Node) : shown (left ++ right) = shown left ++ shown right :=
  List.map_append

@[simp] theorem held_nil : held [] = [] := rfl

@[simp] theorem held_append (left right : List Piece) : held (left ++ right) = held left ++ held right :=
  List.filterMap_append

@[simp] theorem held_event (event : Event) (rest : List Piece) : held (.event event :: rest) = held rest :=
  rfl

@[simp] theorem held_gap (rest : List Piece) : held (.gap :: rest) = held rest := rfl

@[simp] theorem held_freshLine (rest : List Piece) : held (.freshLine :: rest) = held rest := rfl

@[simp] theorem flawed_append (left right : List Piece) :
    flawed (left ++ right) = (flawed left || flawed right) :=
  List.any_append

@[simp] theorem flawed_fault (problem : Problem) : flawed (fault problem) = true := rfl

@[simp] theorem held_fault (problem : Problem) : held (fault problem) = [] := rfl

@[simp] theorem held_word (text : String) : held (word text) = [] := rfl

@[simp] theorem held_symbol (role : TokenRole) (text : String) : held (symbol role text) = [] := rfl

@[simp] theorem held_space : held space = [] := rfl

@[simp] theorem held_spaceIf (wanted : Bool) : held (spaceIf wanted) = [] := by cases wanted <;> rfl

@[simp] theorem held_newline : held newline = [] := rfl

@[simp] theorem held_newlines (count : Nat) : held (newlines count) = [] := by
  simp [held, newlines, List.filterMap_replicate, Piece.mark?]

@[simp] theorem held_indent : held indent = [] := rfl

@[simp] theorem held_unindent : held unindent = [] := rfl

@[simp] theorem held_visit (node : Node) : held (visit node) = [(true, node)] := rfl

@[simp] theorem held_visitAll (nodes : List Node) : held (visitAll nodes) = shown nodes := by
  simp [held, visitAll, shown, List.filterMap_map, Function.comp_def, Piece.mark?]

@[simp] theorem held_hide (nodes : List Node) : held (hide nodes) = nodes.map (false, ·) := by
  simp [held, hide, List.filterMap_map, Function.comp_def, Piece.mark?]

@[simp] theorem held_identifier (frames : Frames) (name : Identifier) (tokenClass : TokenClass) :
    held (identifier frames name tokenClass) = [] := by
  unfold identifier
  split <;> rfl

@[simp] theorem held_rawIdentifier (text : String) (tokenClass : TokenClass) :
    held (rawIdentifier text tokenClass) = [] := rfl

@[simp] theorem held_modifiers (listed : List Modifier) : held (modifiers listed) = [] := by
  induction listed with
  | nil => rfl
  | cons modifier rest ih => simpa [modifiers, word] using ih

@[simp] theorem held_comma (policy : Policy) (tight : Bool) : held (comma policy tight) = [] := by
  simp [comma]

@[simp] theorem held_semicolon (frames : Frames) : held (semicolon frames) = [] := by
  unfold semicolon
  split <;> rfl

@[simp] theorem held_commaSeparated (policy : Policy) (nodes : List Node) :
    held (commaSeparated policy nodes) = shown nodes := by
  fun_induction commaSeparated policy nodes with
  | case1 => rfl
  | case2 node => rfl
  | case3 node rest _ ih => simp [ih]

@[simp] theorem held_inParentheses (within : Bool) (body : List Piece) :
    held (inParentheses within body) = held body := by
  simp [inParentheses, enclosed]

@[simp] theorem held_inBrackets (within : Bool) (body : List Piece) :
    held (inBrackets within body) = held body := by
  simp [inBrackets, enclosed]

@[simp] theorem held_parenthesizedList (policy : Policy) (within : Bool) (nodes : List Node) :
    held (parenthesizedList policy within nodes) = shown nodes := by
  simp [parenthesizedList]

@[simp] theorem held_bracketedList (policy : Policy) (within : Bool) (nodes : List Node) :
    held (bracketedList policy within nodes) = shown nodes := by
  simp [bracketedList]

@[simp] theorem held_chevronList (policy : Policy) (nodes : List Node) :
    held (chevronList policy nodes) = shown nodes := by
  cases nodes with
  | nil => rfl
  | cons node rest => simp [chevronList]

@[simp] theorem held_braced (style : BraceStyle) (body : List Piece) :
    held (braced style body) = held body := by
  have opening : held (openBrace style) = [] := by cases style <;> rfl
  have closing : held (closeBrace style) = [] := by cases style <;> rfl
  simp [braced, opening, closing]

@[simp] theorem flawed_braced (style : BraceStyle) (body : List Piece) :
    flawed (braced style body) = flawed body := by
  have opening : flawed (openBrace style) = false := by cases style <;> rfl
  have closing : flawed (closeBrace style) = false := by cases style <;> rfl
  simp [braced, opening, closing]

end Pieces

/-- What a placeholder embeds when it stands in the place of a type, an expression or a statement itself.
Such a node has no children. -/
def embeds : Node → List Node
  | .type (.pattern placeholder) => placeholder.embedded
  | .expression (.pattern placeholder) => placeholder.embedded
  | .statement (.pattern placeholder) => placeholder.embedded
  | _ => []

def leavesOut : Node → Bool
  | .field _ => true
  | .fixedField _ => true
  | .event _ => true
  | .accessor _ => true
  | .variableDeclaration _ => true
  | .switchSection _ => true
  | .statement (.localVariables _) => true
  | .statement (.forLoop _ _ _ _) => true
  | .statement (.fixed _ _ _) => true
  | .typeDeclaration _ => true
  | .documentationReference _ => true
  | _ => false

section Types

@[simp] theorem held_group (name : Option String) : held (group name) = [] := by
  cases name with
  | none => rfl
  | some text =>
      simp only [group]
      split <;> rfl

@[simp] theorem held_bounds (min : UInt32) (max : Option UInt32) : held (bounds min max) = [] := by
  unfold bounds
  split
  · rfl
  · simp

mutual

@[simp] theorem held_pattern (found : Pattern) : held (pattern found) = shown found.embedded := by
  cases found with
  | any groupName => simp [pattern, Pattern.embedded]
  | backreference groupName => simp [pattern, Pattern.embedded]
  | identifierBackreference groupName => simp [pattern, Pattern.embedded]
  | choice alternatives => simp [pattern, Pattern.embedded, held_patternAlternatives alternatives]
  | named groupName child => simp [pattern, Pattern.embedded, held_patternItem child]
  | repeated min max child => simp [pattern, Pattern.embedded, held_patternItem child]
  | optional child => simp [pattern, Pattern.embedded, held_patternItem child]

theorem held_patternItem (item : PatternItem) : held (patternItem item) = shown item.embedded := by
  cases item with
  | pattern nested => simp [patternItem, PatternItem.embedded, held_pattern nested]
  | type found => simp [patternItem, PatternItem.embedded]
  | expression found => simp [patternItem, PatternItem.embedded]
  | statement found => simp [patternItem, PatternItem.embedded]
  | value literal => simp [patternItem, PatternItem.embedded]

theorem held_patternAlternatives (items : List PatternItem) :
    held (patternAlternatives items) = shown (embeddedInItems items) := by
  match items with
  | [] => rfl
  | [item] => simp [patternAlternatives, embeddedInItems, held_patternItem item]
  | item :: next :: rest =>
      have others := held_patternAlternatives (next :: rest)
      simp only [patternAlternatives, embeddedInItems] at others ⊢
      simp [held_patternItem item, others]

end

theorem held_replicate_symbol (count : Nat) (role : TokenRole) (text : String) :
    held (List.replicate count (symbol role text)).flatten = [] := by
  induction count with
  | zero => rfl
  | succ count ih => simpa [List.replicate_succ] using ih

theorem held_type (policy : Policy) (frames : Frames) (found : TypeRef) :
    held (type policy frames found) = shown (Node.childrenOfType found ++ embeds (.type found)) := by
  cases found with
  | primitive keyword => rfl
  | simple name typeArguments => simp [type, Node.childrenOfType, embeds]
  | member target isDoubleColon memberName typeArguments =>
      cases isDoubleColon <;> simp [type, Node.childrenOfType, embeds]
  | composed baseType nullable pointerRank arraySpecifiers =>
      cases nullable <;> simp [type, Node.childrenOfType, held_replicate_symbol, embeds]
  | pattern placeholder => simp [type, Node.childrenOfType, embeds]

theorem held_arraySpecifier (specifier : ArraySpecifier) : held (arraySpecifier specifier) = [] := by
  unfold arraySpecifier
  split
  · rfl
  · simp [held_replicate_symbol]

end Types

section Expressions

@[simp] theorem held_around (spaced : Bool) (role : TokenRole) (text : String) :
    held (around spaced role text) = [] := by
  simp [around]

@[simp] theorem held_assigned (policy : Policy) (value : Option Expression) :
    held (assigned policy value) = shown (Node.ofExpression? value) := by
  cases value with
  | none => rfl
  | some found => simp [assigned, Node.ofExpression?]

@[simp] theorem held_parameterList (policy : Policy) (parameters : List Parameter) :
    held (parameterList policy parameters) = shown (Node.ofParameters parameters) := by
  simp [parameterList]

@[simp] theorem held_callArguments (policy : Policy) (arguments : List Expression) :
    held (callArguments policy arguments) = shown (Node.ofExpressions arguments) := by
  simp [callArguments]

theorem held_elementLines (policy : Policy) (trailingComma : Bool) (nodes : List Node) :
    held (elementLines policy trailingComma nodes) = shown nodes := by
  fun_induction elementLines policy trailingComma nodes with
  | case1 => rfl
  | case2 node => cases trailingComma <;> simp
  | case3 node rest _ ih => simp [ih]

@[simp] theorem held_initializerElements (policy : Policy) (elements : List Expression)
    (trailingComma : Bool) :
    held (initializerElements policy elements trailingComma) = shown (Node.ofExpressions elements) := by
  simp [initializerElements, held_elementLines]

@[simp] theorem held_arrayInitializer (policy : Policy) (frames : Frames) (initializer : ArrayInitializer) :
    held (arrayInitializer policy frames initializer) = shown (Node.ofExpressions initializer.elements) := by
  unfold arrayInitializer
  split <;> simp

@[simp] theorem held_lambda (policy : Policy) (isAsync : Bool) (parameters : List Parameter)
    (body : LambdaBody) :
    held (lambda policy isAsync parameters body) =
      shown (Node.ofParameters parameters ++ [Node.ofLambdaBody body]) := by
  have listed : held (if isBareParameter parameters then commaSeparated policy (Node.ofParameters parameters)
      else parameterList policy parameters) = shown (Node.ofParameters parameters) := by
    split <;> simp
  cases body with
  | expression found => cases isAsync <;> simp [lambda, listed, Node.ofLambdaBody]
  | block found => cases isAsync <;> simp [lambda, listed, Node.ofLambdaBody]

theorem held_clauseLines (clauses : List QueryClause) :
    held (clauseLines clauses) = shown (clauses.map Node.queryClause) := by
  induction clauses with
  | nil => rfl
  | cons clause rest ih => cases clause <;> simp [clauseLines, ih]

@[simp] theorem held_query (frames : Frames) (found : Query) :
    held (query frames found) = shown (found.clauses.map Node.queryClause) := by
  unfold query
  split
  next none => simp [none]
  next first rest clauses =>
    simp only [clauses, held_append, held_visit, held_clauseLines]
    split <;> simp

@[simp] theorem held_spacedWord (text : String) : held (spacedWord text) = [] := rfl

theorem held_queryClause (policy : Policy) (frames : Frames) (clause : QueryClause) :
    held (queryClause policy frames clause) = shown (Node.childrenOfClause clause) := by
  cases clause with
  | join variableType name inExpression onExpression equalsExpression intoName =>
      cases intoName <;> simp [queryClause, Node.childrenOfClause]
  | _ => simp [queryClause, Node.childrenOfClause]

theorem held_queryOrdering (ordering : QueryOrdering) :
    held (queryOrdering ordering) = shown [Node.ofExpression ordering.expression] := by
  cases direction : ordering.direction <;> simp [queryOrdering, direction]

@[simp] theorem held_call (policy : Policy) (keyword : String) (within : SpaceSite) (node : Node) :
    held (call policy keyword within node) = [(true, node)] := by
  simp [call]

@[simp] theorem held_memberAccess (policy : Policy) (frames : Frames) (target : Expression) (role : TokenRole)
    (text : String) (name : Identifier) (typeArguments : List TypeRef) :
    held (memberAccess policy frames target (symbol role text) name typeArguments) =
      shown (Node.ofExpression target :: Node.ofTypes typeArguments) := by
  simp [memberAccess]

@[simp] theorem held_unary (operator : UnaryOperator) (operand : Expression) :
    held (unary operator operand) = [(true, Node.ofExpression operand)] := by
  unfold unary
  split
  · simp
  · split <;> simp

theorem held_unless_empty {α : Type} (values : List α) (pieces : List Piece) {nodes : List Node}
    (taken : held pieces = shown nodes) (empty : values = [] → nodes = []) :
    held (if values.isEmpty then [] else pieces) = shown nodes := by
  cases values with
  | nil => simp [empty rfl]
  | cons value rest => simpa using taken

theorem held_expression (policy : Policy) (frames : Frames) (found : Expression) :
    held (expression policy frames found) =
      (Node.expression found).markedChildren ++ shown (embeds (.expression found)) := by
  cases found with
  | anonymousMethod isAsync hasParameterList parameters body =>
      cases isAsync <;> cases hasParameterList <;> simp [expression, Node.markedChildren, shown, embeds]
  | undocumented operation arguments =>
      have taken := held_unless_empty arguments _ (held_callArguments policy arguments)
        (by rintro rfl; rfl)
      simp only [expression, held_append, held_word, taken]
      simp [Node.markedChildren, shown, Node.children, Node.childrenOfExpression, embeds]
  | arrayCreate elementType arguments additionalSpecifiers initializer =>
      have taken := held_unless_empty arguments _ (held_bracketedList policy (policy.spacing .withinBrackets)
        (Node.ofExpressions arguments)) (by rintro rfl; rfl)
      simp only [expression, held_append, held_word, held_visit, held_visitAll, taken]
      simp [Node.markedChildren, shown, Node.children, Node.childrenOfExpression, embeds]
  | objectCreate createdType arguments explicitParentheses initializer =>
      have taken : held (if !arguments.isEmpty || initializer.isNone || explicitParentheses then
          callArguments policy arguments else []) = shown (Node.ofExpressions arguments) := by
        cases arguments with
        | nil => split <;> simp [Node.ofExpressions]
        | cons argument rest => simp
      simp only [expression, held_append, held_word, held_visit, held_visitAll, taken]
      simp [Node.markedChildren, shown, Node.children, Node.childrenOfExpression, embeds]
  | _ => simp [expression, Node.markedChildren, shown, Node.children, Node.childrenOfExpression, embeds]

end Expressions

section Statements

@[simp] theorem held_embedded (body : Statement) :
    held (embedded body) = [(true, Node.ofStatement body)] := by
  cases body <;> simp [embedded, Node.ofStatement]

@[simp] theorem held_header (policy : Policy) (keyword : String) (before within : SpaceSite)
    (body : List Piece) : held (header policy keyword before within body) = held body := by
  simp [header]

@[simp] theorem held_block (policy : Policy) (frames : Frames) (found : Block) :
    held (block policy frames found) = shown (Node.ofStatements found.statements) := by
  unfold block
  split <;> simp

theorem held_variableDeclaration (policy : Policy) (frames : Frames) (declaration : VariableDeclaration)
    (sound : flawed (variableDeclaration policy frames declaration) = false) :
    held (variableDeclaration policy frames declaration) =
      shown (Node.ofType declaration.variableType :: Node.ofVariables declaration.declarators) := by
  unfold variableDeclaration at sound ⊢
  split at sound
  next => simp at sound
  next listed => simp [listed]

@[simp] theorem held_comment (found : Comment) : held (comment found) = [] := by
  unfold comment
  split <;> rfl

@[simp] theorem held_directive (found : Directive) : held (directive found) = [] := rfl

theorem held_forHeader (policy : Policy) (initializers : List Statement) (condition : Option Expression)
    (iterators : List Statement) (body : Statement) :
    held (header policy "for" .beforeForParentheses .withinForParentheses
        (commaSeparated policy (Node.ofStatements initializers) ++
          spaceIf (policy.spacing .beforeForSemicolon) ++ symbol .semicolon ";" ++
          (match condition with
            | none => []
            | some found =>
                spaceIf (policy.spacing .afterForSemicolon) ++ visit (Node.ofExpression found)) ++
          spaceIf (policy.spacing .beforeForSemicolon) ++ symbol .semicolon ";" ++
          (if iterators.isEmpty then []
            else
              spaceIf (policy.spacing .afterForSemicolon) ++
                commaSeparated policy (Node.ofStatements iterators))) ++
      embedded body) =
      shown (Node.ofStatements initializers ++ Node.ofExpression? condition ++ Node.ofStatements iterators ++
        [Node.ofStatement body]) := by
  have iterated := held_unless_empty iterators
    (spaceIf (policy.spacing .afterForSemicolon) ++ commaSeparated policy (Node.ofStatements iterators))
    (by rw [held_append, held_spaceIf, held_commaSeparated, List.nil_append]) (by rintro rfl; rfl)
  simp only [held_append, held_header, held_commaSeparated, held_spaceIf, held_symbol, iterated,
    held_embedded]
  cases condition <;> simp [Node.ofExpression?]

theorem held_forLoop (policy : Policy) (initializers : List Statement) (condition : Option Expression)
    (iterators : List Statement) (body : Statement)
    (sound : flawed (forLoop policy initializers condition iterators body) = false) :
    held (forLoop policy initializers condition iterators body) =
      shown (Node.ofStatements initializers ++ Node.ofExpression? condition ++ Node.ofStatements iterators ++
        [Node.ofStatement body]) := by
  unfold forLoop at sound ⊢
  split at sound
  next => simp at sound
  next fits =>
    rw [if_neg fits]
    exact held_forHeader policy initializers condition iterators body

@[simp] theorem held_elseBranch (whenFalse : Option Statement) :
    held (elseBranch whenFalse) = shown (whenFalse.toList.map Node.ofStatement) := by
  cases whenFalse with
  | none => rfl
  | some body => cases body <;> simp [elseBranch]

@[simp] theorem held_switchBody (policy : Policy) (sections : List SwitchSection) :
    held (switchBody policy sections) = shown (sections.map Node.switchSection) := by
  cases indented : policy.indentation.switchBody <;> simp [switchBody, indented]

@[simp] theorem held_wordAndValue (keyword : String) (value : Option Expression) :
    held (wordAndValue keyword value) = shown (Node.ofExpression? value) := by
  cases value <;> simp [wordAndValue, Node.ofExpression?]

theorem held_statement (policy : Policy) (frames : Frames) (found : Statement)
    (clean : leavesOut (.statement found) = true → flawed (statement policy frames found) = false) :
    held (statement policy frames found) =
      shown (Node.childrenOfStatement found ++ embeds (.statement found)) := by
  cases found with
  | localVariables declaration =>
      exact (held_variableDeclaration policy frames declaration (clean rfl)).trans
        (by simp [embeds, Node.childrenOfStatement])
  | forLoop initializers condition iterators body =>
      exact (held_forLoop policy initializers condition iterators body (clean rfl)).trans
        (by simp [embeds, Node.childrenOfStatement])
  | fixed variableType declarators body =>
      have sound := clean rfl
      simp only [statement] at sound ⊢
      split at sound
      next => simp at sound
      next listed => simp [listed, Node.childrenOfStatement, embeds]
  | label name =>
      cases followed : isFollowedByStatement frames <;>
        simp [statement, followed, Node.childrenOfStatement, embeds]
  | tryCatch tryBlock catchClauses finallyBlock =>
      cases finallyBlock <;> simp [statement, Node.childrenOfStatement, Node.ofBlock?, embeds]
  | _ => simp [statement, Node.childrenOfStatement, Node.ofExpression?, embeds]

@[simp] theorem held_lines (nodes : List Node) : held (lines nodes) = shown nodes := by
  fun_induction lines nodes with
  | case1 => rfl
  | case2 node => rfl
  | case3 node rest _ ih => simp [ih]

theorem held_sectionBody (policy : Policy) (found : SwitchSection) :
    held (lines (found.labels.map Node.caseLabel) ++
      (if isSingleBlock found.statements then visitAll (Node.ofStatements found.statements)
        else if policy.indentation.caseBody then
          indent ++ newline ++ visitAll (Node.ofStatements found.statements) ++ unindent
        else newline ++ visitAll (Node.ofStatements found.statements))) =
      shown (found.labels.map Node.caseLabel ++ Node.ofStatements found.statements) := by
  split
  · simp
  · split <;> simp

theorem held_switchSection (policy : Policy) (found : SwitchSection)
    (sound : flawed (switchSection policy found) = false) :
    held (switchSection policy found) =
      shown (found.labels.map Node.caseLabel ++ Node.ofStatements found.statements) := by
  unfold switchSection at sound ⊢
  split at sound
  next => simp at sound
  next labelled =>
    rw [if_neg labelled]
    exact held_sectionBody policy found

theorem held_caseLabel (label : CaseLabel) :
    held (caseLabel label) = shown (Node.ofExpression? label.expression) := by
  cases found : label.expression <;> simp [caseLabel, found, Node.ofExpression?]

theorem held_catchClause (policy : Policy) (frames : Frames) (clause : CatchClause) :
    held (catchClause policy frames clause) =
      shown (Node.ofType? clause.catchType ++ Node.ofExpression? clause.condition ++
        [.block clause.body]) := by
  obtain ⟨catchType, variableName, condition, body⟩ := clause
  cases catchType <;> cases condition <;> cases variableName <;>
    simp [catchClause, Node.ofType?, Node.ofExpression?]

end Statements

section Declarations

@[simp] theorem held_namespaceMembers (policy : Policy) (members : List NamespaceMember) :
    held (namespaceMembers policy members) = shown (members.map Node.ofNamespaceMember) := by
  induction members with
  | nil => rfl
  | cons member rest ih =>
      simp only [namespaceMembers, held_append, held_visit, ih]
      split <;> simp

@[simp] theorem held_afterBody (trailingSemicolon : Bool) : held (afterBody trailingSemicolon) = [] := by
  cases trailingSemicolon <;> rfl

theorem held_enumBody (policy : Policy) (trailingComma : Bool) (members : List TypeMember)
    (sound : flawed (enumBody policy trailingComma members) = false) :
    held (enumBody policy trailingComma members) = shown (members.map Node.ofTypeMember) := by
  induction members with
  | nil => rfl
  | cons member rest ih =>
      simp only [enumBody, flawed_append, Bool.or_eq_false_iff] at sound
      have first : held (if isEnumMember member then
          visit (Node.ofTypeMember member) ++
            (if rest.any isEnumMember || trailingComma then comma policy true else []) ++ newline
          else if isTrivia member then visit (Node.ofTypeMember member)
          else fault .foreignEnumMember) = [(true, Node.ofTypeMember member)] := by
        cases kind : isEnumMember member with
        | true => simp only [if_true]; split <;> simp
        | false =>
            cases trivia : isTrivia member with
            | true => simp
            | false => simp [kind, trivia] at sound
      simp only [enumBody, held_append, first, ih sound.2]
      rfl

theorem held_typeBody (policy : Policy) (afterMember : Bool) (members : List TypeMember) :
    held (typeBody policy afterMember members) = shown (members.map Node.ofTypeMember) := by
  induction members generalizing afterMember with
  | nil => rfl
  | cons member rest ih =>
      cases kind : isEnumMember member <;> cases afterMember <;> simp [typeBody, kind, ih]

@[simp] theorem held_afterColon (policy : Policy) (nodes : List Node) :
    held (afterColon policy nodes) = shown nodes := by
  simp [afterColon]

@[simp] theorem held_leading (attributes : List AttributeSection) (listed : List Modifier) :
    held (leading attributes listed) = shown (Node.ofAttributes attributes) := by
  simp [leading]

theorem held_typeDeclaration (policy : Policy) (frames : Frames) (declaration : TypeDeclaration)
    (sound : flawed (typeDeclaration policy frames declaration) = false) :
    held (typeDeclaration policy frames declaration) = shown (Node.typeDeclaration declaration).children := by
  have bases := held_unless_empty declaration.baseTypes _
    (held_afterColon policy (Node.ofTypes declaration.baseTypes)) (by intro none; rw [none]; rfl)
  simp only [typeDeclaration, flawed_append, flawed_braced, Bool.or_eq_false_iff] at sound
  have body : held (if declaration.kind = .enumType then
      enumBody policy declaration.trailingComma declaration.members
      else typeBody policy false declaration.members) =
        shown (declaration.members.map Node.ofTypeMember) := by
    by_cases kind : declaration.kind = .enumType
    · simp only [kind, if_true] at sound ⊢
      exact held_enumBody policy _ _ sound.1.2
    · rw [if_neg kind, held_typeBody]
  simp only [typeDeclaration, held_append, bases, held_braced, body]
  simp [Node.children]

@[simp] theorem held_attributeTarget (target : Option String) : held (attributeTarget target) = [] := by
  cases target with
  | none => rfl
  | some text =>
      simp only [attributeTarget]
      split <;> rfl

theorem held_attributeSection (policy : Policy) (frames : Frames) (found : AttributeSection) :
    held (attributeSection policy frames found) = shown (found.attributes.map Node.attributeUse) := by
  unfold attributeSection
  split <;> simp

theorem held_attributeUse (policy : Policy) (use : Attribute) :
    held (attributeUse policy use) =
      shown (Node.ofType use.attributeType :: Node.ofExpressions use.arguments) := by
  have taken : held (if !use.arguments.isEmpty || use.explicitParentheses
      then callArguments policy use.arguments
      else []) = shown (Node.ofExpressions use.arguments) := by
    cases arguments : use.arguments with
    | nil => split <;> simp [Node.ofExpressions]
    | cons argument rest => simp
  simp only [attributeUse, held_append, held_visit, taken]
  rfl

@[simp] theorem held_typedVariables (policy : Policy) (frames : Frames) (type : TypeRef)
    (declarators : List Node) :
    held (typedVariables policy frames type declarators) = shown (Node.ofType type :: declarators) := by
  simp [typedVariables]

@[simp] theorem held_explicitInterface (found : Option TypeRef) :
    held (explicitInterface found) = shown (Node.ofType? found) := by
  cases found <;> simp [explicitInterface, Node.ofType?]

@[simp] theorem held_memberBody (frames : Frames) (body : Option Block) :
    held (memberBody frames body) = shown (Node.ofBlock? body) := by
  cases body <;> simp [memberBody, Node.ofBlock?]

@[simp] theorem held_accessorList (policy : Policy) (site : BraceSite) (accessors : List Accessor) :
    held (accessorList policy site accessors) = shown (Node.ofAccessors accessors) := by
  simp [accessorList]

theorem held_fixedVariable (policy : Policy) (frames : Frames) (buffer : FixedVariable) :
    held (fixedVariable policy frames buffer) = shown (Node.ofExpression? buffer.count) := by
  cases found : buffer.count <;> simp [fixedVariable, found, Node.ofExpression?]

theorem held_constructor (policy : Policy) (frames : Frames) (declaration : ConstructorDeclaration) :
    held (constructor policy frames declaration) = shown (Node.constructor declaration).children := by
  cases found : declaration.initializer <;> simp [constructor, found, Node.children]

theorem held_operator (policy : Policy) (frames : Frames) (declaration : OperatorDeclaration) :
    held (operator policy frames declaration) = shown (Node.operator declaration).children := by
  cases token : declaration.operator.token? <;> simp [operator, token, Node.children]

@[simp] theorem held_parameterModifier (modifier : ParameterModifier) :
    held (parameterModifier modifier) = [] := by
  cases modifier <;> rfl

theorem held_parameter (policy : Policy) (frames : Frames) (found : Parameter) :
    held (parameter policy frames found) = shown (Node.parameter found).children := by
  cases name : found.name <;> simp [parameter, name, Node.children]

theorem held_typeParameter (frames : Frames) (found : TypeParameter) :
    held (typeParameter frames found) = shown (Node.ofAttributes found.attributes) := by
  cases variance : found.variance <;> simp [typeParameter, variance]

theorem isConversion_eq (operator : OverloadableOperator) :
    operator.isConversion = operator.token?.isNone := by
  cases operator <;> rfl

theorem held_referencedOperator (reference : DocumentationReference)
    (sound : flawed (referencedOperator reference) = false) :
    held (referencedOperator reference) =
      (Node.ofType? reference.conversionReturnType).map (reference.operator.any (·.isConversion), ·) := by
  obtain ⟨_, _, _, operator, returnType, _⟩ := reference
  cases operator with
  | none => simp [referencedOperator] at sound
  | some operator =>
      cases token : operator.token? with
      | some text => simp [referencedOperator, token, isConversion_eq]
      | none =>
          cases returnType with
          | none => simp [referencedOperator, token] at sound
          | some type => simp [referencedOperator, token, isConversion_eq, Node.ofType?]

theorem held_referencedSymbol (frames : Frames) (reference : DocumentationReference)
    (sound : flawed (referencedSymbol frames reference) = false) :
    held (referencedSymbol frames reference) =
      if reference.symbolKind = .operator then
        (Node.ofType? reference.conversionReturnType).map (reference.operator.any (·.isConversion), ·)
      else [] := by
  cases kind : reference.symbolKind with
  | operator =>
      simp only [referencedSymbol, kind] at sound
      simp only [referencedSymbol, kind, if_true]
      exact held_referencedOperator reference sound
  | typeDefinition => simp only [referencedSymbol, kind]; split <;> simp
  | indexer => simp [referencedSymbol, kind]
  | _ => cases name : reference.memberName <;> simp [referencedSymbol, kind, name]

theorem held_referenceDot (reference : DocumentationReference) :
    held (if reference.declaringType.isSome && reference.symbolKind ≠ .typeDefinition then symbol .dot "."
      else []) = [] := by
  split <;> rfl

theorem held_referenceParameters (policy : Policy) (reference : DocumentationReference) :
    held (if !reference.hasParameterList then hide (Node.ofParameters reference.parameters)
      else
        spaceIf (policy.spacing .beforeMethodDeclarationParentheses) ++
          (if reference.symbolKind = .indexer then
            bracketedList policy (policy.spacing .withinMethodDeclarationParentheses)
              (Node.ofParameters reference.parameters)
          else parenthesizedList policy (policy.spacing .withinMethodDeclarationParentheses)
            (Node.ofParameters reference.parameters))) =
      (Node.ofParameters reference.parameters).map (reference.hasParameterList, ·) := by
  cases present : reference.hasParameterList with
  | false => simp
  | true =>
      simp only [Bool.not_true, Bool.false_eq_true, if_false, held_append, held_spaceIf, List.nil_append]
      split <;> simp [shown]

theorem held_documentationReference (policy : Policy) (frames : Frames) (reference : DocumentationReference)
    (sound : flawed (documentationReference policy frames reference) = false) :
    held (documentationReference policy frames reference) =
      (Node.documentationReference reference).markedChildren := by
  simp only [documentationReference, flawed_append, Bool.or_eq_false_iff] at sound
  have symbols := held_referencedSymbol frames reference sound.1.1.2
  simp only [documentationReference, held_append, held_visitAll, held_referenceDot, symbols, held_chevronList,
    held_referenceParameters]
  simp [Node.markedChildren, shown]

end Declarations

theorem held_unless_flawed {pieces : List Piece} {taken : List (Bool × Node)} {empty : Bool}
    {problem : Problem} (whole : empty = false → held pieces = taken)
    (sound : flawed (if empty then fault problem else pieces) = false) :
    held (if empty then fault problem else pieces) = taken := by
  cases empty with
  | true => simp at sound
  | false => exact whole rfl

/-- A plan takes all children in order, unless it stops at a problem and leaves some out. -/
theorem held_plan_of_clean (policy : Policy) (frames : Frames) (node : Node)
    (clean : leavesOut node = true → flawed (plan policy frames node) = false) :
    held (plan policy frames node) = node.markedChildren ++ shown (embeds node) := by
  -- Only a placeholder embeds anything, so for all other nodes the children are the whole list.
  have all : held (plan policy frames node) = shown node.children →
      node.markedChildren = shown node.children →
      embeds node = [] → held (plan policy frames node) = node.markedChildren ++ shown (embeds node) := by
    intro taken printed none
    rw [taken, printed, none, shown_nil, List.append_nil]
  cases node with
  | type found => exact (held_type policy frames found).trans (shown_append _ _)
  | expression found => exact held_expression policy frames found
  | statement found => exact (held_statement policy frames found clean).trans (shown_append _ _)
  | documentationReference reference =>
      exact (held_documentationReference policy frames reference (clean rfl)).trans (List.append_nil _).symm
  | typeDeclaration declaration =>
      exact all (held_typeDeclaration policy frames declaration (clean rfl)) rfl rfl
  | field declaration => exact all (held_unless_flawed (fun _ => by simp [Node.children]) (clean rfl)) rfl rfl
  | fixedField declaration =>
      exact all (held_unless_flawed (fun _ => by simp [Node.children]) (clean rfl)) rfl rfl
  | event declaration => exact all (held_unless_flawed (fun _ => by simp [Node.children]) (clean rfl)) rfl rfl
  | accessor found => exact all (held_unless_flawed (fun _ => by simp [Node.children]) (clean rfl)) rfl rfl
  | attributeSection found => exact all (held_attributeSection policy frames found) rfl rfl
  | attributeUse use => exact all (held_attributeUse policy use) rfl rfl
  | fixedVariable buffer => exact all (held_fixedVariable policy frames buffer) rfl rfl
  | constructor declaration => exact all (held_constructor policy frames declaration) rfl rfl
  | operator declaration => exact all (held_operator policy frames declaration) rfl rfl
  | parameter found => exact all (held_parameter policy frames found) rfl rfl
  | typeParameter found => exact all (held_typeParameter frames found) rfl rfl
  | arraySpecifier specifier => exact all (held_arraySpecifier specifier) rfl rfl
  | queryClause clause => exact all (held_queryClause policy frames clause) rfl rfl
  | queryOrdering ordering => exact all (held_queryOrdering ordering) rfl rfl
  | variableDeclaration declaration =>
      exact all (held_variableDeclaration policy frames declaration (clean rfl)) rfl rfl
  | switchSection found => exact all (held_switchSection policy found (clean rfl)) rfl rfl
  | caseLabel label => exact all (held_caseLabel label) rfl rfl
  | catchClause clause => exact all (held_catchClause policy frames clause) rfl rfl
  | syntaxTree tree => exact all (held_namespaceMembers policy tree.members) rfl rfl
  | namespaceDeclaration declaration =>
      exact all (by simp [plan, namespaceDeclaration, Node.children]) rfl rfl
  | usingDeclaration declaration => exact all (by simp [plan, usingDeclaration, Node.children]) rfl rfl
  | usingAlias declaration => exact all (by simp [plan, usingAlias, Node.children]) rfl rfl
  | externAlias declaration => exact all (by simp [plan, externAlias, Node.children]) rfl rfl
  | delegate declaration => exact all (by simp [plan, delegate, Node.children]) rfl rfl
  | method declaration => exact all (by simp [plan, method, Node.children]) rfl rfl
  | constructorInitializer initializer =>
      exact all (by simp [plan, constructorInitializer, Node.children]) rfl rfl
  | destructor declaration => exact all (by simp [plan, destructor, Node.children]) rfl rfl
  | property declaration => exact all (by simp [plan, property, Node.children]) rfl rfl
  | indexer declaration => exact all (by simp [plan, indexer, Node.children]) rfl rfl
  | customEvent declaration => exact all (by simp [plan, customEvent, Node.children]) rfl rfl
  | enumMember member => exact all (by simp [plan, enumMember, Node.children]) rfl rfl
  | constraint found => exact all (by simp [plan, constraint, Node.children]) rfl rfl
  | variableInitializer found => exact all (by simp [plan, variableInitializer, Node.children]) rfl rfl
  | arrayInitializer initializer => exact all (held_arrayInitializer policy frames initializer) rfl rfl
  | query found => exact all (held_query frames found) rfl rfl
  | block found => exact all (held_block policy frames found) rfl rfl
  | comment found => exact all (held_comment found) rfl rfl
  | directive found => exact all (held_directive found) rfl rfl
  | pattern placeholder => exact all (held_pattern placeholder) rfl rfl

theorem held_plan (policy : Policy) (frames : Frames) (node : Node)
    (sound : flawed (plan policy frames node) = false) :
    held (plan policy frames node) = node.markedChildren ++ shown (embeds node) :=
  held_plan_of_clean policy frames node fun _ => sound

theorem held_plan_of_plain (policy : Policy) (frames : Frames) {node : Node} (plain : embeds node = [])
    (clean : leavesOut node = true → flawed (plan policy frames node) = false) :
    held (plan policy frames node) = node.markedChildren := by
  rw [held_plan_of_clean policy frames node clean, plain, shown_nil, List.append_nil]

section Asked

theorem held_guarded_sublist {pieces : List Piece} {taken : List (Bool × Node)} {missing : Bool}
    {problem : Problem} (whole : missing = false → held pieces = taken) :
    (held (if missing then fault problem else pieces)).Sublist taken := by
  cases missing with
  | true => exact List.nil_sublist _
  | false => exact whole rfl ▸ List.Sublist.refl _

theorem held_enumBody_sublist (policy : Policy) (trailingComma : Bool) (members : List TypeMember) :
    (held (enumBody policy trailingComma members)).Sublist (shown (members.map Node.ofTypeMember)) := by
  induction members with
  | nil => exact List.Sublist.refl _
  | cons member rest ih =>
      rw [enumBody, held_append, List.map_cons, shown_cons, ← List.singleton_append]
      refine List.Sublist.append ?_ ih
      split
      · split <;> simp
      · split <;> simp

theorem held_typeDeclaration_sublist (policy : Policy) (frames : Frames) (declaration : TypeDeclaration) :
    (held (typeDeclaration policy frames declaration)).Sublist
      (shown (Node.typeDeclaration declaration).children) := by
  have bases := held_unless_empty declaration.baseTypes _
    (held_afterColon policy (Node.ofTypes declaration.baseTypes)) (by intro none; rw [none]; rfl)
  have body : (held (if declaration.kind = .enumType then
      enumBody policy declaration.trailingComma declaration.members
      else typeBody policy false declaration.members)).Sublist (shown
        (declaration.members.map Node.ofTypeMember)) := by
    split
    · exact held_enumBody_sublist policy _ _
    · exact held_typeBody policy _ _ ▸ List.Sublist.refl _
  simp only [typeDeclaration, held_append, bases, held_braced]
  simpa [Node.children] using body

theorem held_referencedOperator_sublist (reference : DocumentationReference) :
    (held (referencedOperator reference)).Sublist
      ((Node.ofType? reference.conversionReturnType).map (reference.operator.any (·.isConversion), ·)) := by
  cases flaw : flawed (referencedOperator reference) with
  | false => exact held_referencedOperator reference flaw ▸ List.Sublist.refl _
  | true =>
      -- Where something is missing, nothing is asked for.
      have nothing : held (referencedOperator reference) = [] := by
        unfold referencedOperator at flaw ⊢
        split
        · rfl
        next operator found =>
          rw [found] at flaw
          simp only at flaw ⊢
          split
          next shown => rw [shown] at flaw; simp [hide, flawed, word, symbol, space, Piece.isProblem] at flaw
          next => rfl
          next alone present => rw [alone, present] at flaw; cases flaw
      exact nothing ▸ List.nil_sublist _

theorem held_referencedSymbol_sublist (frames : Frames) (reference : DocumentationReference) :
    (held (referencedSymbol frames reference)).Sublist
      (if reference.symbolKind = .operator then
        (Node.ofType? reference.conversionReturnType).map (reference.operator.any (·.isConversion), ·)
      else []) := by
  cases kind : reference.symbolKind with
  | operator =>
      simp only [referencedSymbol, kind, if_true]
      exact held_referencedOperator_sublist reference
  | typeDefinition => simp only [referencedSymbol, kind]; split <;> simp
  | indexer => simp [referencedSymbol, kind]
  | _ => cases name : reference.memberName <;> simp [referencedSymbol, kind, name]

theorem held_documentationReference_sublist (policy : Policy) (frames : Frames)
    (reference : DocumentationReference) :
    (held (documentationReference policy frames reference)).Sublist
      (Node.documentationReference reference).markedChildren := by
  simp only [documentationReference, held_append, held_visitAll, held_referenceDot, held_chevronList,
    held_referenceParameters, List.append_nil]
  exact (((List.Sublist.refl _).append (held_referencedSymbol_sublist frames reference)).append
    (List.Sublist.refl _)).append (List.Sublist.refl _)

theorem held_statement_sublist (policy : Policy) (frames : Frames) (found : Statement)
    (cut : leavesOut (.statement found) = true) :
    (held (statement policy frames found)).Sublist (shown (Node.childrenOfStatement found)) := by
  cases found with
  | localVariables declaration => exact held_guarded_sublist fun _ => by simp [Node.childrenOfStatement]
  | forLoop initializers condition iterators body =>
      exact held_guarded_sublist fun _ => held_forHeader policy initializers condition iterators body
  | fixed variableType declarators body =>
      exact held_guarded_sublist fun _ => by simp [Node.childrenOfStatement]
  | _ => cases cut

/-- A plan asks for children of its node only, in their order, whatever is wrong with the node. -/
theorem held_plan_sublist (policy : Policy) (frames : Frames) (node : Node) :
    (held (plan policy frames node)).Sublist (node.markedChildren ++ shown (embeds node)) := by
  cases partly : leavesOut node with
  | false =>
      have whole := held_plan_of_clean policy frames node fun cut =>
        absurd (partly.symm.trans cut) Bool.false_ne_true
      exact whole ▸ List.Sublist.refl _
  | true =>
      refine List.Sublist.trans ?_ (List.sublist_append_left ..)
      have all : (held (plan policy frames node)).Sublist (shown node.children) →
          node.markedChildren = shown node.children →
            (held (plan policy frames node)).Sublist node.markedChildren :=
              fun asked printed => printed ▸ asked
      cases node with
      | field declaration => exact all (held_guarded_sublist fun _ => by simp [Node.children]) rfl
      | fixedField declaration => exact all (held_guarded_sublist fun _ => by simp [Node.children]) rfl
      | event declaration => exact all (held_guarded_sublist fun _ => by simp [Node.children]) rfl
      | accessor found => exact all (held_guarded_sublist fun _ => by simp [Node.children]) rfl
      | variableDeclaration declaration =>
          exact all (held_guarded_sublist fun _ => by simp [Node.children]) rfl
      | switchSection found => exact all (held_guarded_sublist fun _ => held_sectionBody policy found) rfl
      | typeDeclaration declaration => exact all (held_typeDeclaration_sublist policy frames declaration) rfl
      | documentationReference reference => exact held_documentationReference_sublist policy frames reference
      | statement found => exact all (held_statement_sublist policy frames found partly) rfl
      | _ => cases partly

theorem mem_children_of_asked {policy : Policy} {frames : Frames} {node found : Node} {slot : Nat}
    (asked : .child found ∈ plan policy frames node) (present : slot < node.children.length) :
    found ∈ node.children := by
  have listed : (true, found) ∈ held (plan policy frames node) := List.mem_filterMap.mpr ⟨_, asked, rfl⟩
  rcases List.mem_append.mp ((held_plan_sublist policy frames node).subset listed) with own | embedded
  · rw [← Node.markedChildren_snd]
    exact List.mem_map_of_mem own
  · -- What embeds something has no children.
    have childless : embeds node = [] ∨ node.children = [] := by
      unfold embeds
      split
      · exact .inr rfl
      · exact .inr rfl
      · exact .inr rfl
      · exact .inl rfl
    rcases childless with none | none
    · rw [none] at embedded
      cases embedded
    · rw [none] at present
      cases present

end Asked

end Layout

end CSharpLayout
