import CSharpLayout.Layout.Type

/-! Plans of expressions and query clauses. -/

namespace CSharpLayout

namespace Layout

def aroundOperator (policy : Policy) : BinaryOperator → Bool
  | .bitwiseAnd => policy.spacing .aroundBitwiseOperator
  | .bitwiseOr => policy.spacing .aroundBitwiseOperator
  | .exclusiveOr => policy.spacing .aroundBitwiseOperator
  | .conditionalAnd => policy.spacing .aroundLogicalOperator
  | .conditionalOr => policy.spacing .aroundLogicalOperator
  | .greaterThan => policy.spacing .aroundRelationalOperator
  | .greaterThanOrEqual => policy.spacing .aroundRelationalOperator
  | .lessThan => policy.spacing .aroundRelationalOperator
  | .lessThanOrEqual => policy.spacing .aroundRelationalOperator
  | .equality => policy.spacing .aroundEqualityOperator
  | .inequality => policy.spacing .aroundEqualityOperator
  | .add => policy.spacing .aroundAdditiveOperator
  | .subtract => policy.spacing .aroundAdditiveOperator
  | .multiply => policy.spacing .aroundMultiplicativeOperator
  | .divide => policy.spacing .aroundMultiplicativeOperator
  | .modulus => policy.spacing .aroundMultiplicativeOperator
  | .shiftLeft => policy.spacing .aroundShiftOperator
  | .shiftRight => policy.spacing .aroundShiftOperator
  | .nullCoalescing => true

def around (spaced : Bool) (role : TokenRole) (text : String) : List Piece :=
  spaceIf spaced ++ symbol role text ++ spaceIf spaced

def assigned (policy : Policy) (value : Option Expression) : List Piece :=
  match value with
  | none => []
  | some found =>
      around (policy.spacing .aroundAssignment) .operator "=" ++ visit (Node.ofExpression found)

def parameterList (policy : Policy) (parameters : List Parameter) : List Piece :=
  parenthesizedList policy (policy.spacing .withinMethodDeclarationParentheses)
    (Node.ofParameters parameters)

def callArguments (policy : Policy) (arguments : List Expression) : List Piece :=
  spaceIf (policy.spacing .beforeMethodCallParentheses) ++
    parenthesizedList policy (policy.spacing .withinMethodCallParentheses)
      (Node.ofExpressions arguments)

def elementLines (policy : Policy) (trailingComma : Bool) : List Node → List Piece
  | [] => []
  | [node] => visit node ++ (if trailingComma then comma policy true else []) ++ newline
  | node :: rest =>
      visit node ++ comma policy true ++ newline ++ elementLines policy trailingComma rest

def initializerBraces (policy : Policy) : BraceStyle :=
  if policy.arrayInitializer = .wrapAlways then .nextLine else .sameLine

def initializerElements (policy : Policy) (elements : List Expression) (trailingComma : Bool) :
    List Piece :=
  braced (initializerBraces policy)
    (elementLines policy trailingComma (Node.ofExpressions elements))

def isPlainAssignment : Expression → Bool
  | .assignment _ .assign _ => true
  | _ => false

/-- A single element of a nested initializer is printed without braces, unless the source spelled them
or the element is an assignment. -/
def omitsBraces (frames : Frames) (initializer : ArrayInitializer) : Bool :=
  match initializer.elements with
  | [element] =>
      !initializer.explicitBraces && !isPlainAssignment element &&
        (match frames.parent?, frames.grandparent? with
          | some (.arrayInitializer _), some (.expression (.objectCreate _ _ _ _)) => true
          | some (.arrayInitializer _), some (.expression (.named _ _)) => true
          | _, _ => false)
  | _ => false

def arrayInitializer (policy : Policy) (frames : Frames) (initializer : ArrayInitializer) :
    List Piece :=
  if omitsBraces frames initializer then visitAll (Node.ofExpressions initializer.elements)
  else initializerElements policy initializer.elements initializer.trailingComma

def isBareParameter : List Parameter → Bool
  | [only] => only.parameterType.isNone && only.modifier = .plain
  | _ => false

def lambda (policy : Policy) (isAsync : Bool) (parameters : List Parameter) (body : LambdaBody) :
    List Piece :=
  (if isAsync then word "async" ++ space else []) ++
    (if isBareParameter parameters then commaSeparated policy (Node.ofParameters parameters)
      else parameterList policy parameters) ++
    space ++ symbol .operator "=>" ++
    (match body with
      | .expression found => space ++ visit (Node.ofExpression found)
      | .block found => visit (.block found))

def clauseLines : List QueryClause → List Piece
  | [] => []
  | clause :: rest =>
      (match clause with
        | .continuation _ _ => []
        | _ => newline) ++
        visit (.queryClause clause) ++ clauseLines rest

def isNestedQuery (frames : Frames) : Bool :=
  match frames.parent? with
  | some (.queryClause (.continuation _ _)) => false
  | some (.queryClause _) => true
  | _ => false

def query (frames : Frames) (found : Query) : List Piece :=
  match found.clauses with
  | [] => fault .queryWithoutClauses
  | first :: rest =>
      (if isNestedQuery frames then indent ++ newline else []) ++
        visit (.queryClause first) ++ clauseLines rest ++
        (if isNestedQuery frames then unindent else [])

def spacedWord (text : String) : List Piece := space ++ word text ++ space

def queryClause (policy : Policy) (frames : Frames) : QueryClause → List Piece
  | .continuation preceding name =>
      visit (.query preceding) ++ spacedWord "into" ++ identifier frames name .localVariable
  | .fromIn variableType name found =>
      word "from" ++ visitAll (Node.ofType? variableType) ++ space ++
        identifier frames name .localVariable ++ spacedWord "in" ++ visit (Node.ofExpression found)
  | .letBe name found =>
      word "let" ++ space ++ identifier frames name .localVariable ++
        around (policy.spacing .aroundAssignment) .operator "=" ++ visit (Node.ofExpression found)
  | .whereTrue condition => word "where" ++ space ++ visit (Node.ofExpression condition)
  | .join variableType name inExpression onExpression equalsExpression intoName =>
      word "join" ++ visitAll (Node.ofType? variableType) ++ space ++
        identifier frames name .localVariable ++ spacedWord "in" ++
        visit (Node.ofExpression inExpression) ++ spacedWord "on" ++
        visit (Node.ofExpression onExpression) ++ spacedWord "equals" ++
        visit (Node.ofExpression equalsExpression) ++
        (match intoName with
          | none => []
          | some into => spacedWord "into" ++ identifier frames into .localVariable)
  | .orderBy orderings =>
      word "orderby" ++ space ++ commaSeparated policy (orderings.map Node.queryOrdering)
  | .select found => word "select" ++ space ++ visit (Node.ofExpression found)
  | .groupBy projection key =>
      word "group" ++ space ++ visit (Node.ofExpression projection) ++ spacedWord "by" ++
        visit (Node.ofExpression key)

def queryOrdering (ordering : QueryOrdering) : List Piece :=
  visit (Node.ofExpression ordering.expression) ++
    (match ordering.direction with
      | .unspecified => []
      | .ascending => space ++ word "ascending"
      | .descending => space ++ word "descending")

def call (policy : Policy) (keyword : String) (within : SpaceSite) (node : Node) : List Piece :=
  word keyword ++ inParentheses (policy.spacing within) (visit node)

def memberAccess (policy : Policy) (frames : Frames) (target : Expression) (link : List Piece)
    (name : Identifier) (typeArguments : List TypeRef) : List Piece :=
  visit (Node.ofExpression target) ++ link ++ identifier frames name .text ++
    chevronList policy (Node.ofTypes typeArguments)

def unary (operator : UnaryOperator) (operand : Expression) : List Piece :=
  match operator with
  | .await => word "await" ++ visit (Node.ofExpression operand)
  | _ =>
      if operator.followsOperand then
        visit (Node.ofExpression operand) ++ symbol .operator operator.token
      else symbol .operator operator.token ++ visit (Node.ofExpression operand)

def expression (policy : Policy) (frames : Frames) : Expression → List Piece
  | .anonymousMethod isAsync hasParameterList parameters body =>
      (if isAsync then word "async" ++ space else []) ++ word "delegate" ++
        (if hasParameterList then
          spaceIf (policy.spacing .beforeMethodDeclarationParentheses) ++
            parameterList policy parameters
        else hide (Node.ofParameters parameters)) ++
        visit (.block body)
  | .undocumented operation arguments =>
      word operation.keyword ++ (if arguments.isEmpty then [] else callArguments policy arguments)
  | .arrayCreate elementType arguments additionalSpecifiers initializer =>
      word "new" ++ visit (Node.ofType elementType) ++
        (if arguments.isEmpty then []
          else bracketedList policy (policy.spacing .withinBrackets) (Node.ofExpressions arguments)) ++
        visitAll (Node.ofSpecifiers additionalSpecifiers) ++
        visitAll (initializer.toList.map Node.arrayInitializer)
  | .arrayInitializer initializer => arrayInitializer policy frames initializer
  | .asType operand targetType =>
      visit (Node.ofExpression operand) ++ spacedWord "as" ++ visit (Node.ofType targetType)
  | .assignment left operator right =>
      visit (Node.ofExpression left) ++
        around (policy.spacing .aroundAssignment) .operator operator.token ++
        visit (Node.ofExpression right)
  | .baseReference => word "base"
  | .binary left operator right =>
      visit (Node.ofExpression left) ++
        around (aroundOperator policy operator) .operator operator.token ++
        visit (Node.ofExpression right)
  | .cast targetType operand =>
      inParentheses (policy.spacing .withinCastParentheses) (visit (Node.ofType targetType)) ++
        spaceIf (policy.spacing .afterTypecast) ++ visit (Node.ofExpression operand)
  | .checked operand => call policy "checked" .withinCheckedParentheses (Node.ofExpression operand)
  | .conditional condition whenTrue whenFalse =>
      visit (Node.ofExpression condition) ++
        spaceIf (policy.spacing .beforeConditionalOperatorCondition) ++ symbol .operator "?" ++
        spaceIf (policy.spacing .afterConditionalOperatorCondition) ++
        visit (Node.ofExpression whenTrue) ++
        spaceIf (policy.spacing .beforeConditionalOperatorSeparator) ++ symbol .colon ":" ++
        spaceIf (policy.spacing .afterConditionalOperatorSeparator) ++
        visit (Node.ofExpression whenFalse)
  | .defaultValue targetType => call policy "default" .withinTypeofParentheses (Node.ofType targetType)
  | .direction direction operand =>
      word (match direction with
        | .out => "out"
        | .ref => "ref") ++ space ++ visit (Node.ofExpression operand)
  | .identifier name typeArguments =>
      identifier frames name .text ++ chevronList policy (Node.ofTypes typeArguments)
  | .indexer target arguments =>
      visit (Node.ofExpression target) ++ spaceIf (policy.spacing .beforeMethodCallParentheses) ++
        bracketedList policy (policy.spacing .withinBrackets) (Node.ofExpressions arguments)
  | .invocation target arguments =>
      visit (Node.ofExpression target) ++ callArguments policy arguments
  | .isType operand targetType =>
      visit (Node.ofExpression operand) ++ space ++ word "is" ++ visit (Node.ofType targetType)
  | .lambda isAsync parameters body => lambda policy isAsync parameters body
  | .memberReference target name typeArguments =>
      memberAccess policy frames target (symbol .dot ".") name typeArguments
  | .namedArgument name operand =>
      identifier frames name .parameter ++ symbol .colon ":" ++ space ++
        visit (Node.ofExpression operand)
  | .named name operand =>
      identifier frames name .property ++ around true .operator "=" ++
        visit (Node.ofExpression operand)
  | .nullReference => [.event (.literal .null none)]
  | .objectCreate createdType arguments explicitParentheses initializer =>
      word "new" ++ visit (Node.ofType createdType) ++
        (if !arguments.isEmpty || initializer.isNone || explicitParentheses then
          callArguments policy arguments
        else []) ++
        visitAll (initializer.toList.map Node.arrayInitializer)
  | .anonymousTypeCreate initializers => word "new" ++ initializerElements policy initializers false
  | .parenthesized operand =>
      inParentheses (policy.spacing .withinParentheses) (visit (Node.ofExpression operand))
  | .pointerReference target name typeArguments =>
      memberAccess policy frames target (symbol .arrow "->") name typeArguments
  | .literal value raw => [.event (.literal value raw)]
  | .sizeOf targetType => call policy "sizeof" .withinSizeofParentheses (Node.ofType targetType)
  | .stackAlloc elementType count =>
      word "stackalloc" ++ visit (Node.ofType elementType) ++
        inBrackets (policy.spacing .withinBrackets) (visit (Node.ofExpression count))
  | .thisReference => word "this"
  | .typeOf targetType => call policy "typeof" .withinTypeofParentheses (Node.ofType targetType)
  | .typeReference targetType => visit (Node.ofType targetType)
  | .unary operator operand => unary operator operand
  | .unchecked operand =>
      call policy "unchecked" .withinCheckedParentheses (Node.ofExpression operand)
  | .query found => query frames found
  | .pattern placeholder => pattern placeholder

end Layout

end CSharpLayout
