import CSharpLayout.Proofs.Shape

/-! Every plan has the shape that two policies share. -/

namespace CSharpLayout

namespace Layout

namespace Matched

variable {p q : Policy}

theorem group (name : Option String) : Matched p q (Layout.group name) (Layout.group name) := by
  cases name with
  | none => exact nil
  | some text => exact ite (fun _ => nil) fun _ => append (rawIdentifier _ _) (symbol _ rfl)

theorem bounds (min : UInt32) (max : Option UInt32) :
    Matched p q (Layout.bounds min max) (Layout.bounds min max) :=
  ite (fun _ => nil) fun _ =>
    append (append (append (rawIdentifier _ _) (symbol _ rfl)) (rawIdentifier _ _)) (symbol _ rfl)

theorem placeholderCall (keyword : String) {left right : List Piece} (body : Matched p q left right) :
    Matched p q
      (Layout.word keyword ++ Layout.symbol .openParen "(" ++ left ++ Layout.symbol .closeParen ")")
      (Layout.word keyword ++ Layout.symbol .openParen "(" ++ right ++ Layout.symbol .closeParen ")") := by
  have called := append (word keyword) (delimited .openParen "(" ")" rfl body)
  simpa only [List.append_assoc] using called

mutual

theorem pattern : (placeholder : Pattern) →
    Matched p q (Layout.pattern placeholder) (Layout.pattern placeholder)
  | .any groupName => group groupName
  | .backreference groupName => placeholderCall _ (rawIdentifier groupName _)
  | .identifierBackreference groupName => placeholderCall _ (rawIdentifier groupName _)
  | .choice alternatives => by
      have inside := append newline (indented true true (patternAlternatives alternatives))
      have whole := append (append (word "choice") space)
        (delimited .openParen "(" ")" rfl inside)
      simpa only [Layout.pattern, indentedIf, if_true, List.append_assoc] using whole
  | .named groupName child => append (group groupName) (patternItem child)
  | .repeated min max child => by
      have called := placeholderCall "repeat" (append (bounds min max) (patternItem child))
      simpa only [Layout.pattern, List.append_assoc] using called
  | .optional child => placeholderCall _ (patternItem child)

theorem patternItem : (item : PatternItem) →
    Matched p q (Layout.patternItem item) (Layout.patternItem item)
  | .pattern nested => pattern nested
  | .type _ => visit _
  | .expression _ => visit _
  | .statement _ => visit _
  | .value _ => fixed rfl

theorem patternAlternatives : (items : List PatternItem) →
    Matched p q (Layout.patternAlternatives items) (Layout.patternAlternatives items)
  | [] => nil
  | [item] => append (patternItem item) newline
  | item :: next :: rest =>
      append (append (append (patternItem item) (symbol _ rfl)) newline)
        (patternAlternatives (next :: rest))

end

theorem symbols {role : TokenRole} (text : String) (plain : role.isDelimiter = false) (count : Nat) :
    Matched p q (List.replicate count (Layout.symbol role text)).flatten
      (List.replicate count (Layout.symbol role text)).flatten := by
  induction count with
  | zero => exact nil
  | succ count ih => exact append (symbol text plain) ih

theorem type (frames : Frames) (found : TypeRef) :
    Matched p q (Layout.type p frames found) (Layout.type q frames found) := by
  cases found with
  | primitive keyword => exact fixed rfl
  | simple name typeArguments => exact append (identifier _ _ _) (chevronList _)
  | member target isDoubleColon memberName typeArguments =>
      have link : Matched p q
          (if isDoubleColon then Layout.symbol .doubleColon "::" else Layout.symbol .dot ".")
          (if isDoubleColon then Layout.symbol .doubleColon "::" else Layout.symbol .dot ".") :=
        ite (fun _ => symbol _ rfl) fun _ => symbol _ rfl
      exact append (append (append (visit _) link) (identifier _ _ _)) (chevronList _)
  | composed baseType nullable pointerRank arraySpecifiers =>
      have mark : Matched p q (if nullable then Layout.symbol .nullable "?" else [])
          (if nullable then Layout.symbol .nullable "?" else []) :=
        ite (fun _ => symbol _ rfl) fun _ => nil
      exact append (append (append (visit _) mark) (symbols _ rfl _)) (visitAll _)
  | pattern placeholder => exact pattern placeholder

theorem arraySpecifier (specifier : ArraySpecifier) :
    Matched p q (Layout.arraySpecifier specifier) (Layout.arraySpecifier specifier) :=
  ite (fun _ => fault _) fun _ => delimited _ _ _ rfl (symbols _ rfl _)

theorem around {spaced spaced' : Bool} {role : TokenRole} (text : String)
    (wider : p.Tighter q → spaced = true → spaced' = true) (plain : role.isDelimiter = false) :
    Matched p q (Layout.around spaced role text) (Layout.around spaced' role text) :=
  append (append (spaceIf wider) (symbol text plain)) (spaceIf wider)

theorem aroundAt (site : SpaceSite) (text : String) :
    Matched p q (Layout.around (p.spacing site) .operator text)
      (Layout.around (q.spacing site) .operator text) :=
  around text (fun tighter => tighter.spacing site) rfl

theorem aroundAlways {role : TokenRole} (text : String) (plain : role.isDelimiter = false) :
    Matched p q (Layout.around true role text) (Layout.around true role text) :=
  around text (fun _ found => found) plain

theorem aroundBinary (operator : BinaryOperator) (text : String) :
    Matched p q (Layout.around (aroundOperator p operator) .operator text)
      (Layout.around (aroundOperator q operator) .operator text) := by
  refine around text ?_ rfl
  intro tighter
  cases operator with
  | nullCoalescing => exact fun _ => rfl
  | _ => exact tighter.spacing _

theorem assigned (value : Option Expression) :
    Matched p q (Layout.assigned p value) (Layout.assigned q value) := by
  cases value with
  | none => exact nil
  | some found => exact append (aroundAt _ _) (visit _)

theorem parameterList (parameters : List Parameter) :
    Matched p q (Layout.parameterList p parameters) (Layout.parameterList q parameters) :=
  parenthesizedAt _ _

theorem callArguments (arguments : List Expression) :
    Matched p q (Layout.callArguments p arguments) (Layout.callArguments q arguments) :=
  append (spaceAt _) (parenthesizedAt _ _)

theorem elementLines (trailingComma : Bool) (nodes : List Node) :
    Matched p q (Layout.elementLines p trailingComma nodes)
      (Layout.elementLines q trailingComma nodes) := by
  induction nodes with
  | nil => exact nil
  | cons node rest ih =>
      cases rest with
      | nil => exact append (append (visit _) (ite (fun _ => comma _) fun _ => nil)) newline
      | cons next rest => exact append (append (append (visit _) (comma _)) newline) ih

theorem initializerBraces_spaced (policy : Policy) : initializerBraces policy ≠ .sameLineNoSpace := by
  unfold initializerBraces
  split <;> exact BraceStyle.noConfusion

theorem initializerElements (elements : List Expression) (trailingComma : Bool) :
    Matched p q (Layout.initializerElements p elements trailingComma)
      (Layout.initializerElements q elements trailingComma) :=
  braced false false (fun _ _ => initializerBraces_spaced q) (elementLines _ _)

theorem arrayInitializer (frames : Frames) (initializer : ArrayInitializer) :
    Matched p q (Layout.arrayInitializer p frames initializer)
      (Layout.arrayInitializer q frames initializer) :=
  ite (fun _ => visitAll _) fun _ => initializerElements _ _

theorem lambda (isAsync : Bool) (parameters : List Parameter) (body : LambdaBody) :
    Matched p q (Layout.lambda p isAsync parameters body) (Layout.lambda q isAsync parameters body) := by
  refine append (append (append (append ?_ ?_) space) (symbol _ rfl)) ?_
  · exact ite (fun _ => append (word _) space) fun _ => nil
  · exact ite (fun _ => commaSeparated _) fun _ => parameterList _
  · cases body with
    | expression found => exact append space (visit _)
    | block found => exact visit _

theorem clauseLines (clauses : List QueryClause) :
    Matched p q (Layout.clauseLines clauses) (Layout.clauseLines clauses) := by
  induction clauses with
  | nil => exact nil
  | cons clause rest ih =>
      refine append (append ?_ (visit _)) ih
      cases clause with
      | continuation preceding name => exact nil
      | _ => exact newline

theorem query (frames : Frames) (found : Query) :
    Matched p q (Layout.query frames found) (Layout.query frames found) := by
  obtain ⟨clauses⟩ := found
  cases clauses with
  | nil => exact fault _
  | cons first rest =>
      have body := append (visit (p := p) (q := q) (.queryClause first)) (clauseLines rest)
      cases nested : isNestedQuery frames with
      | false => simpa [Layout.query, nested] using body
      | true =>
          have deeper := indented true true (append newline body)
          simpa [Layout.query, nested, indentedIf] using deeper

theorem spacedWord (text : String) :
    Matched p q (Layout.spacedWord text) (Layout.spacedWord text) :=
  append (append space (word _)) space

theorem call (keyword : String) (within : SpaceSite) (node : Node) :
    Matched p q (Layout.call p keyword within node) (Layout.call q keyword within node) :=
  append (word _) (parenthesesAt _ (visit _))

theorem header (keyword : String) (before within : SpaceSite) {left right : List Piece}
    (body : Matched p q left right) :
    Matched p q (Layout.header p keyword before within left)
      (Layout.header q keyword before within right) :=
  append (append (word _) (spaceAt _)) (parenthesesAt _ body)

theorem queryClause (frames : Frames) (clause : QueryClause) :
    Matched p q (Layout.queryClause p frames clause) (Layout.queryClause q frames clause) := by
  cases clause
  case join variableType name inExpression onExpression equalsExpression intoName =>
      cases intoName
      all_goals simp only [Layout.queryClause]
      all_goals repeat' with_reducible first
        | exact nil
        | exact space
        | apply append
        | apply word
        | apply visit
        | apply visitAll
        | apply identifier
        | apply spacedWord
  all_goals simp only [Layout.queryClause]
  all_goals repeat' with_reducible first
    | exact space
    | apply append
    | apply word
    | apply visit
    | apply visitAll
    | apply identifier
    | apply spacedWord
    | apply aroundAt
    | apply commaSeparated

theorem unary (operator : UnaryOperator) (operand : Expression) :
    Matched p q (Layout.unary operator operand) (Layout.unary operator operand) := by
  cases operator with
  | await => exact append (word _) (visit _)
  | postIncrement => exact append (visit _) (symbol _ rfl)
  | postDecrement => exact append (visit _) (symbol _ rfl)
  | _ => exact append (symbol _ rfl) (visit _)

theorem memberAccess (frames : Frames) (target : Expression) {link : List Piece} (name : Identifier)
    (typeArguments : List TypeRef) (linked : Matched p q link link) :
    Matched p q (Layout.memberAccess p frames target link name typeArguments)
      (Layout.memberAccess q frames target link name typeArguments) :=
  append (append (append (visit _) linked) (identifier _ _ _)) (chevronList _)

theorem expression (frames : Frames) (found : Expression) :
    Matched p q (Layout.expression p frames found) (Layout.expression q frames found) := by
  cases found
  case memberReference target name typeArguments => exact memberAccess _ _ _ _ (symbol _ rfl)
  case pointerReference target name typeArguments => exact memberAccess _ _ _ _ (symbol _ rfl)
  all_goals simp only [Layout.expression]
  all_goals repeat' with_reducible first
    | exact nil
    | exact space
    | apply append
    | apply ite
    | apply word
    | apply symbol _ rfl
    | apply event rfl
    | apply visit
    | apply visitAll
    | apply hide
    | apply identifier
    | apply spaceAt
    | apply spacedWord
    | apply aroundAt
    | apply aroundAlways _ rfl
    | apply aroundBinary
    | apply parenthesesAt
    | apply bracketsAt
    | apply bracketedAt
    | apply chevronList
    | apply parameterList
    | apply callArguments
    | apply call
    | apply lambda
    | apply arrayInitializer
    | apply initializerElements
    | apply unary
    | apply query
    | apply pattern
    | intro _

theorem embedded (body : Statement) : Matched p q (Layout.embedded body) (Layout.embedded body) := by
  cases body
  case block found => exact visit _
  all_goals simp only [Layout.embedded, List.append_assoc]
  all_goals exact append newline (indented true true (visit _))

theorem block (frames : Frames) (found : Block) :
    Matched p q (Layout.block p frames found) (Layout.block q frames found) :=
  append (bracedAt _ (visitAll _)) (ite (fun _ => nil) fun _ => newline)

theorem variableDeclaration (frames : Frames) (declaration : VariableDeclaration) :
    Matched p q (Layout.variableDeclaration p frames declaration)
      (Layout.variableDeclaration q frames declaration) :=
  ite (fun _ => fault _) fun _ =>
    append (append (append (append (modifiers _) (visit _)) space) (commaSeparated _)) (semicolon _)

theorem comment (found : Comment) : Matched p q (Layout.comment found) (Layout.comment found) :=
  cons rfl (ite (fun _ => nil) fun _ => newline)

theorem directive (found : Directive) : Matched p q (Layout.directive found) (Layout.directive found) :=
  fixed rfl

theorem forLoop (initializers : List Statement) (condition : Option Expression)
    (iterators : List Statement) (body : Statement) :
    Matched p q (Layout.forLoop p initializers condition iterators body)
      (Layout.forLoop q initializers condition iterators body) := by
  refine ite (fun _ => fault _) fun _ => append (header _ _ _ ?_) (embedded _)
  refine append (append (append (append (append (append (commaSeparated _) (spaceAt _)) (symbol _ rfl))
    ?_) (spaceAt _)) (symbol _ rfl)) ?_
  · cases condition with
    | none => exact nil
    | some found => exact append (spaceAt _) (visit _)
  · exact ite (fun _ => nil) fun _ => append (spaceAt _) (commaSeparated _)

theorem elseBranch (branch : Option Statement) :
    Matched p q (Layout.elseBranch branch) (Layout.elseBranch branch) := by
  cases branch with
  | none => exact nil
  | some body =>
      cases body with
      | ifElse condition whenTrue whenFalse => exact append (word _) (visit _)
      | _ => exact append (word _) (embedded _)

theorem switchBody (sections : List SwitchSection) :
    Matched p q (Layout.switchBody p sections) (Layout.switchBody q sections) := by
  have body : Matched p q _ _ := braced (!p.indentation.switchBody) (!q.indentation.switchBody)
    (fun tighter => tighter.braces .statement) (visitAll (sections.map Node.switchSection))
  have flat (policy : Policy) (pieces : List Piece) :
      (if policy.indentation.switchBody = true then [] else unindent) ++ pieces ++
        (if policy.indentation.switchBody = true then [] else indent) =
      outdentedIf (!policy.indentation.switchBody) pieces := by
    cases policy.indentation.switchBody <;> simp [outdentedIf]
  simp only [Layout.switchBody, flat]
  exact append body newline

theorem wordAndValue (keyword : String) (value : Option Expression) :
    Matched p q (Layout.wordAndValue keyword value) (Layout.wordAndValue keyword value) := by
  cases value with
  | none => exact append (word _) nil
  | some found => exact append (word _) (append space (visit _))

theorem statement (frames : Frames) (found : Statement) :
    Matched p q (Layout.statement p frames found) (Layout.statement q frames found) := by
  cases found
  case tryCatch tryBlock catchClauses finallyBlock =>
      cases finallyBlock with
      | none => exact append (append (append (word _) (visit _)) (visitAll _)) nil
      | some found =>
          exact append (append (append (word _) (visit _)) (visitAll _)) (append (word _) (visit _))
  all_goals simp only [Layout.statement]
  all_goals repeat' with_reducible first
    | exact nil
    | exact space
    | exact newline
    | apply append
    | apply ite
    | apply word
    | apply symbol _ rfl
    | apply fault
    | apply visit
    | apply visitAll
    | apply identifier
    | apply spacedWord
    | apply semicolon
    | apply commaSeparated
    | apply header
    | apply embedded
    | apply elseBranch
    | apply switchBody
    | apply wordAndValue
    | apply forLoop
    | apply block
    | apply variableDeclaration
    | apply comment
    | apply directive
    | apply pattern
    | intro _

theorem lines (nodes : List Node) : Matched p q (Layout.lines nodes) (Layout.lines nodes) := by
  induction nodes with
  | nil => exact nil
  | cons node rest ih =>
      cases rest with
      | nil => exact visit _
      | cons next rest => exact append (append (visit _) newline) ih

theorem switchSection (found : SwitchSection) :
    Matched p q (Layout.switchSection p found) (Layout.switchSection q found) := by
  have statements := visitAll (p := p) (q := q) (Node.ofStatements found.statements)
  have body := indented p.indentation.caseBody q.indentation.caseBody (append newline statements)
  simp only [indentedIf, ← List.append_assoc] at body
  exact ite (fun _ => fault _) fun _ => append (lines _) (ite (fun _ => statements) fun _ => body)

theorem caseLabel (label : CaseLabel) :
    Matched p q (Layout.caseLabel label) (Layout.caseLabel label) := by
  obtain ⟨value⟩ := label
  cases value with
  | none => exact append (word _) (symbol _ rfl)
  | some found => exact append (append (append (word _) space) (visit _)) (symbol _ rfl)

theorem catchClause (frames : Frames) (clause : CatchClause) :
    Matched p q (Layout.catchClause p frames clause) (Layout.catchClause q frames clause) := by
  obtain ⟨catchType, variableName, condition, body⟩ := clause
  refine append (append ?_ ?_) (visit _)
  · cases catchType with
    | none => exact word _
    | some found =>
        refine header _ _ _ (append (visit _) ?_)
        cases variableName with
        | none => exact nil
        | some name => exact append space (identifier _ _ _)
  · cases condition with
    | none => exact nil
    | some found => exact append space (header _ _ _ (visit _))

theorem namespaceMembers (members : List NamespaceMember) :
    Matched p q (Layout.namespaceMembers p members) (Layout.namespaceMembers q members) := by
  induction members with
  | nil => exact nil
  | cons member rest ih =>
      exact append (append (visit _)
        (ite (fun _ => newlines fun tighter => tighter.afterUsings) fun _ => nil)) ih

theorem afterBody (trailingSemicolon : Bool) :
    Matched p q (Layout.afterBody trailingSemicolon) (Layout.afterBody trailingSemicolon) :=
  append (ite (fun _ => symbol _ rfl) fun _ => nil) newline

theorem enumBody (trailingComma : Bool) (members : List TypeMember) :
    Matched p q (Layout.enumBody p trailingComma members) (Layout.enumBody q trailingComma members) := by
  induction members with
  | nil => exact nil
  | cons member rest ih =>
      refine append (ite (fun _ => ?_) fun _ => ite (fun _ => visit _) fun _ => fault _) ih
      exact append (append (visit _) (ite (fun _ => comma _) fun _ => nil)) newline

theorem typeBody (afterMember : Bool) (members : List TypeMember) :
    Matched p q (Layout.typeBody p afterMember members) (Layout.typeBody q afterMember members) := by
  induction members generalizing afterMember with
  | nil => exact nil
  | cons member rest ih =>
      refine append (append (append ?_ ?_) (visit _)) (ih _)
      · exact ite (fun _ => fault _) fun _ => nil
      · exact ite (fun _ => newlines fun tighter => tighter.betweenMembers) fun _ => nil

theorem afterColon (nodes : List Node) :
    Matched p q (Layout.afterColon p nodes) (Layout.afterColon q nodes) :=
  append (aroundAlways _ rfl) (commaSeparated _)

theorem leading (attributes : List AttributeSection) (listed : List Modifier) :
    Matched p q (Layout.leading attributes listed) (Layout.leading attributes listed) :=
  append (visitAll _) (modifiers _)

theorem typeDeclaration (frames : Frames) (declaration : TypeDeclaration) :
    Matched p q (Layout.typeDeclaration p frames declaration)
      (Layout.typeDeclaration q frames declaration) := by
  refine append (append (append (append (append (append (append (leading _ _) (word _))
    (identifier _ _ _)) (chevronList _)) ?_) (visitAll _)) (bracedAt _ ?_)) (afterBody _)
  · exact ite (fun _ => nil) fun _ => afterColon _
  · exact ite (fun _ => enumBody _ _) fun _ => typeBody _ _

theorem attributeTarget (target : Option String) :
    Matched p q (Layout.attributeTarget target) (Layout.attributeTarget target) := by
  cases target with
  | none => exact nil
  | some text =>
      exact ite (fun _ => nil) fun _ => append (append (word _) (symbol _ rfl)) space

theorem attributeSection (frames : Frames) (found : AttributeSection) :
    Matched p q (Layout.attributeSection p frames found) (Layout.attributeSection q frames found) := by
  have listed := append (attributeTarget (p := p) (q := q) found.target)
    (commaSeparated (found.attributes.map Node.attributeUse))
  have inside := delimited .openBracket "[" "]" rfl listed
  rw [← List.append_assoc, ← List.append_assoc] at inside
  refine append inside ?_
  split
  · exact space
  · exact space
  · exact newline

theorem attributeUse (use : Attribute) :
    Matched p q (Layout.attributeUse p use) (Layout.attributeUse q use) :=
  append (visit _) (ite (fun _ => callArguments _) fun _ => nil)

theorem typedVariables (frames : Frames) (type : TypeRef) (declarators : List Node) :
    Matched p q (Layout.typedVariables p frames type declarators)
      (Layout.typedVariables q frames type declarators) :=
  append (append (append (visit _) space) (commaSeparated _)) (semicolon _)

theorem explicitInterface (found : Option TypeRef) :
    Matched p q (Layout.explicitInterface found) (Layout.explicitInterface found) := by
  cases found with
  | none => exact nil
  | some type => exact append (visit _) (symbol _ rfl)

theorem memberBody (frames : Frames) (body : Option Block) :
    Matched p q (Layout.memberBody frames body) (Layout.memberBody frames body) := by
  cases body with
  | none => exact semicolon _
  | some found => exact visit _

theorem accessorList (site : BraceSite) (accessors : List Accessor) :
    Matched p q (Layout.accessorList p site accessors) (Layout.accessorList q site accessors) :=
  append (bracedAt _ (visitAll _)) newline

theorem fixedVariable (frames : Frames) (buffer : FixedVariable) :
    Matched p q (Layout.fixedVariable p frames buffer) (Layout.fixedVariable q frames buffer) := by
  obtain ⟨name, count⟩ := buffer
  cases count with
  | none => exact append (identifier _ _ _) nil
  | some found => exact append (identifier _ _ _) (bracketsAt _ (visit _))

theorem constructor (frames : Frames) (declaration : ConstructorDeclaration) :
    Matched p q (Layout.constructor p frames declaration)
      (Layout.constructor q frames declaration) := by
  obtain ⟨attributes, listed, name, parameters, initializer, body⟩ := declaration
  refine append (append (append (append (append (leading _ _) (identifier _ _ _)) (spaceAt _))
    (parameterList _)) ?_) (memberBody _ _)
  cases initializer with
  | none => exact nil
  | some found => exact append space (visit _)

theorem destructor (frames : Frames) (declaration : DestructorDeclaration) :
    Matched p q (Layout.destructor p frames declaration)
      (Layout.destructor q frames declaration) :=
  append (append (append (append (append (append (leading _ _) (spaceWhen _)) (symbol _ rfl))
    (identifier _ _ _)) (spaceAt _)) (inParentheses (fun _ found => found) nil)) (memberBody _ _)

theorem operator (frames : Frames) (declaration : OperatorDeclaration) :
    Matched p q (Layout.operator p frames declaration) (Layout.operator q frames declaration) := by
  refine append (append (append (append (leading _ _) ?_) (spaceAt _)) (parameterList _))
    (memberBody _ _)
  split
  · exact append (append (append (visit _) (word _)) space) (symbol _ rfl)
  · exact append (append (append (word _) (word _)) space) (visit _)

theorem parameter (frames : Frames) (found : Parameter) :
    Matched p q (Layout.parameter p frames found) (Layout.parameter q frames found) := by
  obtain ⟨attributes, modifier, parameterType, name, defaultExpression⟩ := found
  refine append (append (append (append (visitAll _) ?_) (visitAll _)) ?_) (assigned _)
  · cases modifier with
    | plain => exact nil
    | _ => exact word _
  · cases name with
    | none => exact nil
    | some name => exact append (spaceWhen _) (identifier _ _ _)

theorem typeParameter (frames : Frames) (found : TypeParameter) :
    Matched p q (Layout.typeParameter frames found) (Layout.typeParameter frames found) := by
  obtain ⟨attributes, variance, name⟩ := found
  refine append (append (visitAll _) ?_) (identifier _ _ _)
  cases variance with
  | invariant => exact nil
  | _ => exact word _

theorem referencedOperator (reference : DocumentationReference) :
    Matched p q (Layout.referencedOperator reference) (Layout.referencedOperator reference) := by
  unfold Layout.referencedOperator
  split
  · exact fault _
  · split
    · exact append (append (append (word _) space) (symbol _ rfl)) (hide _)
    · exact fault _
    · exact append (append (append (word _) (word _)) space) (visit _)

theorem referencedSymbol (frames : Frames) (reference : DocumentationReference) :
    Matched p q (Layout.referencedSymbol frames reference)
      (Layout.referencedSymbol frames reference) := by
  obtain ⟨kind, declaringType, memberName, _⟩ := reference
  cases kind with
  | typeDefinition => exact ite (fun _ => fault _) fun _ => nil
  | indexer => exact word _
  | operator => exact referencedOperator _
  | _ =>
      cases memberName with
      | none => exact fault _
      | some name => exact identifier _ _ _

theorem documentationReference (frames : Frames) (reference : DocumentationReference) :
    Matched p q (Layout.documentationReference p frames reference)
      (Layout.documentationReference q frames reference) := by
  refine append (append (append (append (visitAll _) ?_) (referencedSymbol _ _)) (chevronList _)) ?_
  · exact ite (fun _ => symbol _ rfl) fun _ => nil
  · refine ite (fun _ => hide _) fun _ => append (spaceAt _) ?_
    exact ite (fun _ => bracketedAt _ _) fun _ => parenthesizedAt _ _

/-- Only white space and indentation depend on the policy a node is planned with. -/
theorem plan (frames : Frames) (node : Node) :
    Matched p q (Layout.plan p frames node) (Layout.plan q frames node) := by
  cases node
  case syntaxTree tree => exact namespaceMembers _
  case typeDeclaration declaration => exact typeDeclaration _ _
  case attributeSection found => exact attributeSection _ _
  case attributeUse use => exact attributeUse _
  case fixedVariable buffer => exact fixedVariable _ _
  case constructor declaration => exact constructor _ _
  case destructor declaration => exact destructor _ _
  case operator declaration => exact operator _ _
  case parameter found => exact parameter _ _
  case typeParameter found => exact typeParameter _ _
  case documentationReference reference => exact documentationReference _ _
  case type found => exact type _ _
  case arraySpecifier specifier => exact arraySpecifier _
  case expression found => exact expression _ _
  case arrayInitializer initializer => exact arrayInitializer _ _
  case query found => exact query _ _
  case queryClause clause => exact queryClause _ _
  case statement found => exact statement _ _
  case block found => exact block _ _
  case variableDeclaration declaration => exact variableDeclaration _ _
  case switchSection found => exact switchSection _
  case caseLabel label => exact caseLabel _
  case catchClause clause => exact catchClause _ _
  case comment found => exact comment _
  case directive found => exact directive _
  case pattern placeholder => exact pattern _
  case queryOrdering ordering =>
      obtain ⟨found, direction⟩ := ordering
      cases direction with
      | unspecified => exact append (visit _) nil
      | _ => exact append (visit _) (append space (word _))
  all_goals simp only [Layout.plan, Layout.namespaceDeclaration, Layout.usingDeclaration,
    Layout.usingAlias, Layout.externAlias, Layout.delegate, Layout.field, Layout.fixedField,
    Layout.event, Layout.method, Layout.constructorInitializer, Layout.property, Layout.indexer,
    Layout.accessor, Layout.customEvent, Layout.enumMember, Layout.constraint,
    Layout.variableInitializer]
  all_goals repeat' with_reducible first
    | exact nil
    | exact space
    | apply append
    | apply ite
    | apply fault
    | apply word
    | apply symbol _ rfl
    | apply visit
    | apply visitAll
    | apply identifier
    | apply rawIdentifier
    | apply spaceAt
    | apply spacedWord
    | apply semicolon
    | apply aroundAt
    | apply bracedAt
    | apply chevronList
    | apply bracketedAt
    | apply parameterList
    | apply callArguments
    | apply namespaceMembers
    | apply afterBody
    | apply leading
    | apply afterColon
    | apply typedVariables
    | apply explicitInterface
    | apply memberBody
    | apply accessorList
    | apply assigned
    | intro _

end Matched

end Layout

end CSharpLayout
