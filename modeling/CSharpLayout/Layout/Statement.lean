import CSharpLayout.Layout.Expression

/-! Plans of statements and of the parts that only statements have. -/

namespace CSharpLayout

namespace Layout

/-- A statement under a header. A block follows the header directly, and anything else goes on an
indented line of its own. -/
def embedded (body : Statement) : List Piece :=
  match body with
  | .block found => visit (.block found)
  | _ => newline ++ indent ++ visit (Node.ofStatement body) ++ unindent

def header (policy : Policy) (keyword : String) (before within : SpaceSite) (body : List Piece) :
    List Piece :=
  word keyword ++ spaceIf (policy.spacing before) ++ inParentheses (policy.spacing within) body

def isFollowedByStatement (frames : Frames) : Bool :=
  let later := match frames.parent?, frames.slot? with
    | some (.block found), some slot => found.statements.drop (slot + 1)
    | some (.switchSection found), some slot => found.statements.drop (slot + 1 - found.labels.length)
    | _, _ => []
  later.any fun
    | .comment _ => false
    | .directive _ => false
    | _ => true

def blockSite : Option Node → BraceSite
  | some (.expression (.lambda _ _ _)) => .anonymousMethod
  | some (.expression (.anonymousMethod _ _ _ _)) => .anonymousMethod
  | some (.constructor _) => .constructor
  | some (.destructor _) => .destructor
  | some (.method _) => .method
  | some (.operator _) => .method
  | some (.accessor found) =>
      match found.kind with
      | .get => .propertyGet
      | .set => .propertySet
      | .add => .eventAdd
      | .remove => .eventRemove
  | _ => .statement

def blockBraces (policy : Policy) (frames : Frames) : BraceStyle := policy.braces (blockSite frames.parent?)

def block (policy : Policy) (frames : Frames) (found : Block) : List Piece :=
  braced (blockBraces policy frames) (visitAll (Node.ofStatements found.statements)) ++
    (if frames.parent?.any Node.isExpression then [] else newline)

def variableDeclaration (policy : Policy) (frames : Frames) (declaration : VariableDeclaration) :
    List Piece :=
  if declaration.declarators.isEmpty then fault .declarationWithoutVariables
  else
    modifiers declaration.modifiers ++ visit (Node.ofType declaration.variableType) ++ space ++
      commaSeparated policy (Node.ofVariables declaration.declarators) ++ semicolon frames

def comment (found : Comment) : List Piece :=
  .event (.comment found.kind found.content) :: (if found.kind.endsLine then [] else newline)

def directive (found : Directive) : List Piece := [.event (.directive found.kind found.argument)]

def fitsHeader : Statement → Bool
  | .expression _ => true
  | .localVariables _ => true
  | _ => false

def forLoop (policy : Policy) (initializers : List Statement) (condition : Option Expression)
    (iterators : List Statement) (body : Statement) : List Piece :=
  if !(initializers.all fitsHeader && iterators.all fitsHeader) then fault .forHeaderStatement
  else
    header policy "for" .beforeForParentheses .withinForParentheses
        (commaSeparated policy (Node.ofStatements initializers) ++
          spaceIf (policy.spacing .beforeForSemicolon) ++ symbol .semicolon ";" ++
          (match condition with
            | none => []
            | some found =>
                spaceIf (policy.spacing .afterForSemicolon) ++ visit (Node.ofExpression found)) ++
          spaceIf (policy.spacing .beforeForSemicolon) ++ symbol .semicolon ";" ++
          (if iterators.isEmpty then []
            else
              spaceIf (policy.spacing .afterForSemicolon) ++
                commaSeparated policy (Node.ofStatements iterators))) ++
      embedded body

def elseBranch : Option Statement → List Piece
  | none => []
  | some (.ifElse condition whenTrue whenFalse) =>
      word "else" ++ visit (Node.ofStatement (.ifElse condition whenTrue whenFalse))
  | some body => word "else" ++ embedded body

def switchBody (policy : Policy) (sections : List SwitchSection) : List Piece :=
  braced (policy.braces .statement)
      ((if policy.indentation.switchBody then [] else unindent) ++
        visitAll (sections.map Node.switchSection) ++
        (if policy.indentation.switchBody then [] else indent)) ++
    newline

def wordAndValue (keyword : String) (value : Option Expression) : List Piece :=
  word keyword ++
    (match value with
      | none => []
      | some found => space ++ visit (Node.ofExpression found))

def statement (policy : Policy) (frames : Frames) : Statement → List Piece
  | .block found => block policy frames found
  | .breaks => word "break" ++ semicolon frames
  | .checked body => word "checked" ++ visit (.block body)
  | .continues => word "continue" ++ semicolon frames
  | .doWhile body condition =>
      word "do" ++ embedded body ++
        header policy "while" .beforeWhileParentheses .withinWhileParentheses
          (visit (Node.ofExpression condition)) ++
        semicolon frames
  | .empty => semicolon frames
  | .expression found => visit (Node.ofExpression found) ++ semicolon frames
  | .fixed variableType declarators body =>
      if declarators.isEmpty then fault .fixedWithoutVariables
      else
        header policy "fixed" .beforeUsingParentheses .withinUsingParentheses
            (visit (Node.ofType variableType) ++ space ++
              commaSeparated policy (Node.ofVariables declarators)) ++
          embedded body
  | .foreach variableType variableName inExpression body =>
      header policy "foreach" .beforeForeachParentheses .withinForeachParentheses
          (visit (Node.ofType variableType) ++ space ++
            identifier frames variableName .localVariable ++ spacedWord "in" ++
            visit (Node.ofExpression inExpression)) ++
        embedded body
  | .forLoop initializers condition iterators body =>
      forLoop policy initializers condition iterators body
  | .goto target => word "goto" ++ identifier frames target .label ++ semicolon frames
  | .gotoCase target =>
      word "goto" ++ word "case" ++ space ++ visit (Node.ofExpression target) ++ semicolon frames
  | .gotoDefault => word "goto" ++ word "default" ++ semicolon frames
  | .ifElse condition whenTrue whenFalse =>
      header policy "if" .beforeIfParentheses .withinIfParentheses
          (visit (Node.ofExpression condition)) ++
        embedded whenTrue ++ elseBranch whenFalse
  | .label name =>
      identifier frames name .label ++ symbol .colon ":" ++
        (if isFollowedByStatement frames then [] else symbol .semicolon ";") ++ newline
  | .lock operand body =>
      header policy "lock" .beforeLockParentheses .withinLockParentheses
          (visit (Node.ofExpression operand)) ++
        embedded body
  | .returns value => wordAndValue "return" value ++ semicolon frames
  | .switch operand sections =>
      header policy "switch" .beforeSwitchParentheses .withinSwitchParentheses
          (visit (Node.ofExpression operand)) ++
        switchBody policy sections
  | .throws value => wordAndValue "throw" value ++ semicolon frames
  | .tryCatch tryBlock catchClauses finallyBlock =>
      word "try" ++ visit (.block tryBlock) ++ visitAll (catchClauses.map Node.catchClause) ++
        (match finallyBlock with
          | none => []
          | some found => word "finally" ++ visit (.block found))
  | .unchecked body => word "unchecked" ++ visit (.block body)
  | .unsafeBlock body => word "unsafe" ++ visit (.block body)
  | .usingResource resource body =>
      header policy "using" .beforeUsingParentheses .withinUsingParentheses
          (visit (Node.ofUsingResource resource)) ++
        embedded body
  | .localVariables declaration => variableDeclaration policy frames declaration
  | .whileLoop condition body =>
      header policy "while" .beforeWhileParentheses .withinWhileParentheses
          (visit (Node.ofExpression condition)) ++
        embedded body
  | .yieldBreak => word "yield" ++ word "break" ++ semicolon frames
  | .yieldReturn value =>
      word "yield" ++ wordAndValue "return" (some value) ++ semicolon frames
  | .comment found => comment found
  | .directive found => directive found
  | .pattern placeholder => pattern placeholder

def lines : List Node → List Piece
  | [] => []
  | [node] => visit node
  | node :: rest => visit node ++ newline ++ lines rest

def isSingleBlock : List Statement → Bool
  | [.block _] => true
  | _ => false

def switchSection (policy : Policy) (found : SwitchSection) : List Piece :=
  if found.labels.isEmpty then fault .sectionWithoutLabels
  else
    let body := visitAll (Node.ofStatements found.statements)
    lines (found.labels.map Node.caseLabel) ++
      (if isSingleBlock found.statements then body
        else if policy.indentation.caseBody then indent ++ newline ++ body ++ unindent
        else newline ++ body)

def caseLabel (label : CaseLabel) : List Piece :=
  (match label.expression with
    | none => word "default"
    | some found => word "case" ++ space ++ visit (Node.ofExpression found)) ++
    symbol .colon ":"

def catchClause (policy : Policy) (frames : Frames) (clause : CatchClause) : List Piece :=
  (match clause.catchType with
    | none => word "catch"
    | some found =>
        header policy "catch" .beforeCatchParentheses .withinCatchParentheses
          (visit (Node.ofType found) ++
            (match clause.variableName with
              | none => []
              | some name => space ++ identifier frames name .localVariable))) ++
    (match clause.condition with
      | none => []
      | some found =>
          space ++
            header policy "when" .beforeIfParentheses .withinIfParentheses
              (visit (Node.ofExpression found))) ++
    visit (.block clause.body)

end Layout

end CSharpLayout
