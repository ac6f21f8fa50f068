import CSharpLayout.Proofs.WellFormed

/-! The names and semicolons in a plan. A node writes its own names in order, each as the open nodes ask,
and nothing else in the place of a name; only accessors and placeholders write words there that are no
names. -/

namespace CSharpLayout

inductive Sign where
  | name (text : String)
  | semicolon
  deriving DecidableEq

def Sign.name? : Sign → Option String
  | .name text => some text
  | .semicolon => none

def namesAmong (signs : List Sign) : List String := signs.filterMap Sign.name?

@[simp] theorem namesAmong_nil : namesAmong [] = [] := rfl

@[simp] theorem namesAmong_append (left right : List Sign) :
    namesAmong (left ++ right) = namesAmong left ++ namesAmong right := List.filterMap_append

@[simp] theorem namesAmong_semicolon (rest : List Sign) :
    namesAmong (.semicolon :: rest) = namesAmong rest := rfl

@[simp] theorem namesAmong_name (texts : List String) : namesAmong (texts.map .name) = texts := by
  induction texts with
  | nil => rfl
  | cons text rest ih => exact congrArg (text :: ·) ih

def Piece.sign? : Piece → Option Sign
  | .event (.identifier text _) => some (.name text)
  | .event (.token .semicolon _) => some .semicolon
  | _ => none

namespace Layout

def signs (pieces : List Piece) : List Sign := pieces.filterMap Piece.sign?

section Pieces

@[simp] theorem signs_nil : signs [] = [] := rfl

@[simp] theorem signs_append (left right : List Piece) :
    signs (left ++ right) = signs left ++ signs right := List.filterMap_append

@[simp] theorem signs_literal (value : Literal) (raw : Option String) (rest : List Piece) :
    signs (.event (.literal value raw) :: rest) = signs rest := rfl

@[simp] theorem signs_gap (rest : List Piece) : signs (.gap :: rest) = signs rest := rfl

@[simp] theorem signs_freshLine (rest : List Piece) : signs (.freshLine :: rest) = signs rest := rfl

@[simp] theorem signs_word (text : String) : signs (word text) = [] := rfl

@[simp] theorem signs_symbol (role : TokenRole) (text : String) :
    signs (symbol role text) = if role = .semicolon then [.semicolon] else [] := by
  cases role <;> rfl

@[simp] theorem signs_space : signs space = [] := rfl

@[simp] theorem signs_spaceIf (wanted : Bool) : signs (spaceIf wanted) = [] := by cases wanted <;> rfl

@[simp] theorem signs_newline : signs newline = [] := rfl

@[simp] theorem signs_newlines (count : Nat) : signs (newlines count) = [] := by
  simp [signs, newlines, Piece.sign?]

@[simp] theorem signs_indent : signs indent = [] := rfl

@[simp] theorem signs_unindent : signs unindent = [] := rfl

@[simp] theorem signs_fault (problem : Problem) : signs (fault problem) = [] := rfl

@[simp] theorem signs_visit (node : Node) : signs (visit node) = [] := rfl

@[simp] theorem signs_visitAll (nodes : List Node) : signs (visitAll nodes) = [] := by
  simp [signs, visitAll, Piece.sign?]

@[simp] theorem signs_hide (nodes : List Node) : signs (hide nodes) = [] := by
  simp [signs, hide, Piece.sign?]

def spelled (frames : Frames) (names : List Identifier) : List String :=
  (names.filter fun name => !name.name.isEmpty).map frames.escaped

@[simp] theorem spelled_nil (frames : Frames) : spelled frames [] = [] := rfl

theorem spelled_cons (frames : Frames) (name : Identifier) (rest : List Identifier) :
    spelled frames (name :: rest) = spelled frames [name] ++ spelled frames rest := by
  rw [spelled, ← List.singleton_append, List.filter_append, List.map_append]
  rfl

@[simp] theorem signs_identifier (frames : Frames) (name : Identifier) (tokenClass : TokenClass) :
    signs (identifier frames name tokenClass) = (spelled frames [name]).map .name := by
  cases empty : name.name.isEmpty with
  | true =>
      rw [identifier, if_pos empty]
      simp [spelled, empty]
  | false =>
      rw [identifier, if_neg (by simp [empty])]
      simp [spelled, empty, signs, Piece.sign?]

@[simp] theorem signs_modifiers (listed : List Modifier) : signs (modifiers listed) = [] := by
  induction listed with
  | nil => rfl
  | cons modifier rest ih => simpa [modifiers] using ih

@[simp] theorem signs_comma (policy : Policy) (tight : Bool) : signs (comma policy tight) = [] := by
  simp [comma]

def stop (frames : Frames) : List Sign := if inHeader frames then [] else [.semicolon]

@[simp] theorem namesAmong_stop (frames : Frames) : namesAmong (stop frames) = [] := by
  unfold stop
  split <;> rfl

@[simp] theorem signs_semicolon (frames : Frames) : signs (semicolon frames) = stop frames := by
  unfold semicolon stop
  split <;> rfl

@[simp] theorem signs_commaSeparated (policy : Policy) (nodes : List Node) :
    signs (commaSeparated policy nodes) = [] := by
  fun_induction commaSeparated policy nodes with
  | case1 => rfl
  | case2 node => rfl
  | case3 node rest _ ih => simp [ih]

@[simp] theorem signs_inParentheses (within : Bool) (body : List Piece) :
    signs (inParentheses within body) = signs body := by
  simp [inParentheses, enclosed]

@[simp] theorem signs_inBrackets (within : Bool) (body : List Piece) :
    signs (inBrackets within body) = signs body := by
  simp [inBrackets, enclosed]

@[simp] theorem signs_chevronList (policy : Policy) (nodes : List Node) :
    signs (chevronList policy nodes) = [] := by
  cases nodes with
  | nil => rfl
  | cons node rest => simp [chevronList]

@[simp] theorem signs_braced (style : BraceStyle) (body : List Piece) :
    signs (braced style body) = signs body := by
  cases style <;> simp [braced, openBrace, closeBrace]

theorem signs_ite {condition : Prop} [Decidable condition] {left right : List Piece}
    (first : signs left = []) (second : signs right = []) :
    signs (if condition then left else right) = [] := by
  split
  · exact first
  · exact second

theorem signs_symbols (count : Nat) {role : TokenRole} (other : role ≠ .semicolon) (text : String) :
    signs (List.replicate count (symbol role text)).flatten = [] := by
  induction count with
  | zero => rfl
  | succ count ih => simpa [List.replicate_succ, other] using ih

end Pieces

section Parts

@[simp] theorem signs_around (spaced : Bool) (role : TokenRole) (text : String) :
    signs (around spaced role text) = signs (symbol role text) := by
  simp [around]

@[simp] theorem signs_assigned (policy : Policy) (value : Option Expression) :
    signs (assigned policy value) = [] := by
  cases value <;> simp [assigned]

@[simp] theorem signs_parenthesizedList (policy : Policy) (within : Bool) (nodes : List Node) :
    signs (parenthesizedList policy within nodes) = [] := by
  simp [parenthesizedList]

@[simp] theorem signs_bracketedList (policy : Policy) (within : Bool) (nodes : List Node) :
    signs (bracketedList policy within nodes) = [] := by
  simp [bracketedList]

@[simp] theorem signs_parameterList (policy : Policy) (parameters : List Parameter) :
    signs (parameterList policy parameters) = [] := by
  simp [parameterList]

@[simp] theorem signs_callArguments (policy : Policy) (arguments : List Expression) :
    signs (callArguments policy arguments) = [] := by
  simp [callArguments]

theorem signs_elementLines (policy : Policy) (trailingComma : Bool) (nodes : List Node) :
    signs (elementLines policy trailingComma nodes) = [] := by
  fun_induction elementLines policy trailingComma nodes with
  | case1 => rfl
  | case2 node => cases trailingComma <;> simp
  | case3 node rest _ ih => simp [ih]

@[simp] theorem signs_initializerElements (policy : Policy) (elements : List Expression)
    (trailingComma : Bool) :
    signs (initializerElements policy elements trailingComma) = [] := by
  simp [initializerElements, signs_elementLines]

@[simp] theorem signs_arrayInitializer (policy : Policy) (frames : Frames) (initializer : ArrayInitializer) :
    signs (arrayInitializer policy frames initializer) = [] :=
  signs_ite (signs_visitAll _) (signs_initializerElements policy _ _)

@[simp] theorem signs_lambda (policy : Policy) (isAsync : Bool) (parameters : List Parameter)
    (body : LambdaBody) :
    signs (lambda policy isAsync parameters body) = [] := by
  have listed : signs (if isBareParameter parameters then commaSeparated policy (Node.ofParameters parameters)
      else parameterList policy parameters) = [] :=
    signs_ite (signs_commaSeparated policy _) (signs_parameterList policy _)
  cases isAsync <;> cases body <;> simp [lambda, listed]

theorem signs_clauseLines (clauses : List QueryClause) : signs (clauseLines clauses) = [] := by
  induction clauses with
  | nil => rfl
  | cons clause rest ih => cases clause <;> simp [clauseLines, ih]

@[simp] theorem signs_query (frames : Frames) (found : Query) : signs (query frames found) = [] := by
  unfold query
  split
  · rfl
  · simp only [signs_append, signs_visit, signs_clauseLines]
    split <;> rfl

@[simp] theorem signs_spacedWord (text : String) : signs (spacedWord text) = [] := rfl

@[simp] theorem signs_call (policy : Policy) (keyword : String) (within : SpaceSite) (node : Node) :
    signs (call policy keyword within node) = [] := by
  simp [call]

@[simp] theorem signs_unary (operator : UnaryOperator) (operand : Expression) :
    signs (unary operator operand) = [] := by
  unfold unary
  split
  · rfl
  · exact signs_ite rfl rfl

@[simp] theorem signs_embedded (body : Statement) : signs (embedded body) = [] := by
  cases body <;> rfl

@[simp] theorem signs_header (policy : Policy) (keyword : String) (before within : SpaceSite)
    (body : List Piece) : signs (header policy keyword before within body) = signs body := by
  simp [header]

@[simp] theorem signs_wordAndValue (keyword : String) (value : Option Expression) :
    signs (wordAndValue keyword value) = [] := by
  cases value <;> rfl

@[simp] theorem signs_variableDeclaration (policy : Policy) (frames : Frames)
    (declaration : VariableDeclaration) :
    signs (variableDeclaration policy frames declaration) =
      if declaration.declarators.isEmpty then [] else stop frames := by
  rw [variableDeclaration, apply_ite signs]
  simp

@[simp] theorem signs_block (policy : Policy) (frames : Frames) (found : Block) :
    signs (block policy frames found) = [] := by
  simp [block, apply_ite signs]

@[simp] theorem signs_comment (found : Comment) : signs (comment found) = [] := by
  unfold comment
  split <;> rfl

@[simp] theorem signs_directive (found : Directive) : signs (directive found) = [] := rfl

@[simp] theorem signs_leading (attributes : List AttributeSection) (listed : List Modifier) :
    signs (leading attributes listed) = [] := by
  simp [leading]

@[simp] theorem signs_memberBody (frames : Frames) (body : Option Block) :
    signs (memberBody frames body) = if body.isNone then stop frames else [] := by
  cases body with
  | none => exact signs_semicolon frames
  | some found => rfl

@[simp] theorem signs_explicitInterface (found : Option TypeRef) : signs (explicitInterface found) = [] := by
  cases found <;> rfl

@[simp] theorem signs_accessorList (policy : Policy) (site : BraceSite) (accessors : List Accessor) :
    signs (accessorList policy site accessors) = [] := by
  simp [accessorList]

@[simp] theorem signs_namespaceMembers (policy : Policy) (members : List NamespaceMember) :
    signs (namespaceMembers policy members) = [] := by
  induction members with
  | nil => rfl
  | cons member rest ih =>
      simp only [namespaceMembers, signs_append, signs_visit, ih]
      split <;> simp

@[simp] theorem signs_afterBody (trailingSemicolon : Bool) :
    signs (afterBody trailingSemicolon) = if trailingSemicolon then [.semicolon] else [] := by
  cases trailingSemicolon <;> rfl

@[simp] theorem signs_afterColon (policy : Policy) (nodes : List Node) :
    signs (afterColon policy nodes) = [] := by
  simp [afterColon]

@[simp] theorem signs_enumBody (policy : Policy) (trailingComma : Bool) (members : List TypeMember) :
    signs (enumBody policy trailingComma members) = [] := by
  induction members with
  | nil => rfl
  | cons member rest ih =>
      simp only [enumBody, signs_append, ih, List.append_nil]
      refine signs_ite ?_ (signs_ite rfl rfl)
      split <;> simp

@[simp] theorem signs_typeBody (policy : Policy) (afterMember : Bool) (members : List TypeMember) :
    signs (typeBody policy afterMember members) = [] := by
  induction members generalizing afterMember with
  | nil => rfl
  | cons member rest ih =>
      cases isEnumMember member <;> cases afterMember <;> simp [typeBody, ih, apply_ite signs]

@[simp] theorem signs_typedVariables (policy : Policy) (frames : Frames) (type : TypeRef)
    (declarators : List Node) : signs (typedVariables policy frames type declarators) = stop frames := by
  simp [typedVariables]

@[simp] theorem signs_parameterModifier (modifier : ParameterModifier) :
    signs (parameterModifier modifier) = [] := by
  cases modifier <;> rfl

@[simp] theorem signs_attributeTarget (target : Option String) : signs (attributeTarget target) = [] := by
  cases target with
  | none => rfl
  | some text => exact signs_ite rfl rfl

@[simp] theorem signs_elseBranch (whenFalse : Option Statement) : signs (elseBranch whenFalse) = [] := by
  cases whenFalse with
  | none => rfl
  | some body => cases body <;> rfl

@[simp] theorem signs_switchBody (policy : Policy) (sections : List SwitchSection) :
    signs (switchBody policy sections) = [] := by
  cases indented : policy.indentation.switchBody <;> simp [switchBody, indented]

@[simp] theorem signs_lines (nodes : List Node) : signs (lines nodes) = [] := by
  fun_induction lines nodes with
  | case1 => rfl
  | case2 node => rfl
  | case3 node rest _ ih => simp [ih]

end Parts

section Plans

theorem signs_type (policy : Policy) (frames : Frames) (found : TypeRef) (own : (Node.type found).IsOwnView) :
    signs (type policy frames found) = (spelled frames (Node.namesOfType found)).map .name := by
  cases found with
  | pattern placeholder => simp [Node.IsOwnView, Node.ofType] at own
  | primitive keyword => rfl
  | simple name typeArguments => simp [type, Node.namesOfType]
  | member target isDoubleColon memberName typeArguments =>
      cases isDoubleColon <;> simp [type, Node.namesOfType]
  | composed baseType nullable pointerRank arraySpecifiers =>
      cases nullable <;> simp [type, Node.namesOfType, signs_symbols]

theorem signs_expression (policy : Policy) (frames : Frames) (found : Expression)
    (own : (Node.expression found).IsOwnView) :
    signs (expression policy frames found) = (spelled frames (Node.namesOfExpression found)).map .name := by
  cases found with
  | pattern placeholder => simp [Node.IsOwnView, Node.ofExpression] at own
  | anonymousMethod isAsync hasParameterList parameters body =>
      cases isAsync <;> cases hasParameterList <;> simp [expression, Node.namesOfExpression]
  | _ => simp [expression, memberAccess, Node.namesOfExpression, apply_ite signs]

theorem signs_queryClause (policy : Policy) (frames : Frames) (clause : QueryClause) :
    signs (queryClause policy frames clause) = (spelled frames (Node.namesOfClause clause)).map .name := by
  cases clause with
  | join variableType name inExpression onExpression equalsExpression intoName =>
      cases intoName with
      | none => simp [queryClause, Node.namesOfClause]
      | some into => simp [queryClause, Node.namesOfClause, spelled_cons frames name [into]]
  | _ => simp [queryClause, Node.namesOfClause]

def isInline : Node → Bool
  | .type _ => true
  | .arraySpecifier _ => true
  | .expression _ => true
  | .arrayInitializer _ => true
  | .query _ => true
  | .queryClause _ => true
  | .queryOrdering _ => true
  | .parameter _ => true
  | .attributeSection _ => true
  | .attributeUse _ => true
  | .variableInitializer _ => true
  | _ => false

/-- A part of an expression writes no semicolon, and in the place of names its names. -/
theorem signs_plan (policy : Policy) (frames : Frames) {node : Node} (own : node.IsOwnView)
    (inline : isInline node = true) :
    signs (plan policy frames node) = (spelled frames (node.names frames.parent?)).map .name := by
  cases node with
  | type found => exact signs_type policy frames found own
  | expression found => exact signs_expression policy frames found own
  | queryClause clause => exact signs_queryClause policy frames clause
  | arraySpecifier specifier =>
      simp [plan, arraySpecifier, apply_ite signs, signs_symbols, Node.names]
  | queryOrdering ordering =>
      cases direction : ordering.direction <;> simp [plan, queryOrdering, direction, Node.names]
  | parameter found => cases name : found.name <;> simp [plan, parameter, name, Node.names]
  | attributeSection found =>
      simp only [plan, attributeSection, signs_append, Node.names]
      split <;> simp
  | attributeUse use => simp [plan, attributeUse, apply_ite signs, Node.names]
  | variableInitializer found => simp [plan, variableInitializer, Node.names]
  | arrayInitializer initializer => simp [plan, Node.names]
  | query found => simp [plan, Node.names]
  | _ => cases inline

theorem names_statement (policy : Policy) (frames : Frames) (found : Statement)
    (own : (Node.statement found).IsOwnView) :
    namesAmong (signs (statement policy frames found)) = spelled frames (Node.namesOfStatement found) := by
  cases found with
  | pattern placeholder => simp [Node.IsOwnView, Node.ofStatement] at own
  | forLoop initializers condition iterators body =>
      simp only [statement, forLoop, apply_ite signs, apply_ite namesAmong, Node.namesOfStatement]
      cases condition <;> simp [apply_ite signs]
  | tryCatch tryBlock catchClauses finallyBlock =>
      cases finallyBlock <;> simp [statement, Node.namesOfStatement]
  | _ => simp [statement, Node.namesOfStatement, apply_ite signs, apply_ite namesAmong]

theorem signs_referencedOperator (reference : DocumentationReference) :
    signs (referencedOperator reference) = [] := by
  unfold referencedOperator
  repeat' split
  all_goals simp

theorem signs_documentationReference (policy : Policy) (frames : Frames)
    (reference : DocumentationReference) :
    signs (documentationReference policy frames reference) =
      (spelled frames ((Node.documentationReference reference).names frames.parent?)).map .name := by
  have symbol : signs (referencedSymbol frames reference) =
      (spelled frames ((Node.documentationReference reference).names frames.parent?)).map .name := by
    cases kind : reference.symbolKind with
    | typeDefinition => simp [referencedSymbol, kind, Node.names, apply_ite signs]
    | indexer => simp [referencedSymbol, kind, Node.names]
    | operator => simp [referencedSymbol, kind, Node.names, signs_referencedOperator]
    | _ => cases name : reference.memberName <;> simp [referencedSymbol, kind, name, Node.names]
  simp [documentationReference, apply_ite signs, symbol]

/-- Accessors and placeholders write words in the place of names that no name of the tree stands for. -/
def writesRawText : Node → Bool
  | .accessor _ => true
  | .pattern _ => true
  | _ => false

/-- In the place of names, a node writes its names in order. -/
theorem names_plan (policy : Policy) (frames : Frames) {node : Node} (own : node.IsOwnView)
    (plain : writesRawText node = false) :
    namesAmong (signs (plan policy frames node)) = spelled frames (node.names frames.parent?) := by
  by_cases inline : isInline node = true
  · rw [signs_plan policy frames own inline, namesAmong_name]
  · cases node with
    | accessor found => cases plain
    | pattern placeholder => cases plain
    | statement found => exact names_statement policy frames found own
    | documentationReference reference => rw [plan, signs_documentationReference, namesAmong_name]
    | fixedVariable buffer => cases count : buffer.count <;> simp [plan, fixedVariable, count, Node.names]
    | typeParameter found =>
        cases variance : found.variance <;> simp [plan, typeParameter, variance, Node.names]
    | caseLabel label => cases found : label.expression <;> simp [plan, caseLabel, found, Node.names]
    | catchClause clause =>
        obtain ⟨catchType, variableName, condition, body⟩ := clause
        cases catchType <;> cases condition <;> cases variableName <;> simp [plan, catchClause, Node.names]
    | operator declaration =>
        cases token : declaration.operator.token? <;>
          simp [plan, operator, token, Node.names, apply_ite namesAmong]
    | constructor declaration =>
        cases initializer : declaration.initializer <;>
          simp [plan, constructor, initializer, enclosingName_eq, Node.names, apply_ite namesAmong]
    | typeDeclaration declaration =>
        simp [plan, typeDeclaration, Node.names, apply_ite signs, apply_ite namesAmong]
    | _ =>
        simp_all [plan, namespaceDeclaration, usingDeclaration, usingAlias, externAlias, delegate,
          field, fixedField, event, method, constructorInitializer, destructor, property, indexer,
          customEvent, enumMember, constraint, switchSection, enclosingName_eq, isInline, Node.names,
          apply_ite signs, apply_ite namesAmong]

end Plans

end Layout

end CSharpLayout
