import CSharpLayout.Layout.Piece

/-! Plans of type references and of placeholders. -/

namespace CSharpLayout

namespace Layout

def group : Option String → List Piece
  | none => []
  | some name =>
      if name.isEmpty then [] else rawIdentifier name .text ++ symbol .colon ":"

def bounds (min : UInt32) (max : Option UInt32) : List Piece :=
  if min = 0 ∧ max = none then []
  else
    rawIdentifier (toString min.toNat) .number ++ symbol .comma "," ++
      rawIdentifier (match max with
        | some bound => toString bound.toNat
        | none => "2147483647") .number ++
      symbol .comma ","

mutual

def pattern : Pattern → List Piece
  | .any groupName => group groupName
  | .backreference groupName =>
      word "backreference" ++ symbol .openParen "(" ++ rawIdentifier groupName .text ++
        symbol .closeParen ")"
  | .identifierBackreference groupName =>
      word "identifierBackreference" ++ symbol .openParen "(" ++ rawIdentifier groupName .text ++
        symbol .closeParen ")"
  | .choice alternatives =>
      word "choice" ++ space ++ symbol .openParen "(" ++ newline ++ indent ++
        patternAlternatives alternatives ++ unindent ++ symbol .closeParen ")"
  | .named groupName child => group groupName ++ patternItem child
  | .repeated min max child =>
      word "repeat" ++ symbol .openParen "(" ++ bounds min max ++ patternItem child ++
        symbol .closeParen ")"
  | .optional child =>
      word "optional" ++ symbol .openParen "(" ++ patternItem child ++ symbol .closeParen ")"

def patternItem : PatternItem → List Piece
  | .pattern nested => pattern nested
  | .type found => visit (Node.ofType found)
  | .expression found => visit (Node.ofExpression found)
  | .statement found => visit (Node.ofStatement found)
  | .value literal => [.event (.literal literal none)]

def patternAlternatives : List PatternItem → List Piece
  | [] => []
  | [item] => patternItem item ++ newline
  | item :: rest => patternItem item ++ symbol .comma "," ++ newline ++ patternAlternatives rest

end

def typeNameClass (frames : Frames) : TokenClass :=
  let owner := frames.find? fun frame =>
    match frame.node with
    | .type _ => false
    | _ => true
  match owner.map Frame.node with
  | some (.namespaceDeclaration _) => .namespaceName
  | some (.usingDeclaration _) => .namespaceName
  | some (.usingAlias _) => .namespaceName
  | _ => .type

def type (policy : Policy) (frames : Frames) : TypeRef → List Piece
  | .primitive keyword => [.event (.primitiveType keyword)]
  | .simple name typeArguments =>
      identifier frames name (typeNameClass frames) ++ chevronList policy (Node.ofTypes typeArguments)
  | .member target isDoubleColon memberName typeArguments =>
      visit (Node.ofType target) ++
        (if isDoubleColon then symbol .doubleColon "::" else symbol .dot ".") ++
        identifier frames memberName (typeNameClass frames) ++
        chevronList policy (Node.ofTypes typeArguments)
  | .composed baseType nullable pointerRank arraySpecifiers =>
      visit (Node.ofType baseType) ++ (if nullable then symbol .nullable "?" else []) ++
        (List.replicate pointerRank.toNat (symbol .pointer "*")).flatten ++
        visitAll (Node.ofSpecifiers arraySpecifiers)
  | .pattern placeholder => pattern placeholder

def arraySpecifier (specifier : ArraySpecifier) : List Piece :=
  if specifier.dimensions = 0 then fault .arrayWithoutDimensions
  else
    symbol .openBracket "[" ++
      (List.replicate (specifier.dimensions.toNat - 1) (symbol .comma ",")).flatten ++
      symbol .closeBracket "]"

end Layout

end CSharpLayout
