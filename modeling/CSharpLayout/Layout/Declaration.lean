import CSharpLayout.Layout.Statement

/-! Plans of files, namespaces, types and their members. -/

namespace CSharpLayout

namespace Layout

def isUsing : NamespaceMember → Bool
  | .usingDeclaration _ => true
  | .usingAlias _ => true
  | _ => false

def namespaceMembers (policy : Policy) : List NamespaceMember → List Piece
  | [] => []
  | member :: rest =>
      visit (Node.ofNamespaceMember member) ++
        (if isUsing member && rest.head?.any fun next => !isUsing next then
          newlines policy.blankLines.afterUsings
        else []) ++
        namespaceMembers policy rest

def afterBody (trailingSemicolon : Bool) : List Piece :=
  (if trailingSemicolon then symbol .semicolon ";" else []) ++ newline

def namespaceDeclaration (policy : Policy) (declaration : NamespaceDeclaration) : List Piece :=
  word "namespace" ++ visit (Node.ofType declaration.name) ++
    braced (policy.braces .namespaceBody) (namespaceMembers policy declaration.members) ++
    afterBody declaration.trailingSemicolon

def usingDeclaration (frames : Frames) (declaration : UsingDeclaration) : List Piece :=
  word "using" ++ visit (Node.ofType declaration.target) ++ semicolon frames

def usingAlias (policy : Policy) (frames : Frames) (declaration : UsingAlias) : List Piece :=
  word "using" ++ identifier frames declaration.name .text ++
    around (policy.spacing .aroundEqualityOperator) .operator "=" ++
    visit (Node.ofType declaration.target) ++ semicolon frames

def externAlias (frames : Frames) (declaration : ExternAlias) : List Piece :=
  word "extern" ++ spacedWord "alias" ++ identifier frames declaration.name .namespaceName ++
    semicolon frames

def isEnumMember : TypeMember → Bool
  | .enumMember _ => true
  | _ => false

def isTrivia : TypeMember → Bool
  | .comment _ => true
  | .directive _ => true
  | _ => false

def enumBody (policy : Policy) (trailingComma : Bool) : List TypeMember → List Piece
  | [] => []
  | member :: rest =>
      (if isEnumMember member then
          visit (Node.ofTypeMember member) ++
            (if rest.any isEnumMember || trailingComma then comma policy true else []) ++ newline
        else if isTrivia member then visit (Node.ofTypeMember member)
        else fault .foreignEnumMember) ++
        enumBody policy trailingComma rest

/-- Members with blank lines between them, except after comments and directives. `afterMember` tells
whether a member that is neither stands before the list. -/
def typeBody (policy : Policy) (afterMember : Bool) : List TypeMember → List Piece
  | [] => []
  | member :: rest =>
      (if isEnumMember member then fault .enumMemberOutsideEnum else []) ++
        (if afterMember then newlines policy.blankLines.betweenMembers else []) ++
        visit (Node.ofTypeMember member) ++ typeBody policy (!isTrivia member) rest

def typeKeyword : TypeKind → String
  | .classType => "class"
  | .structType => "struct"
  | .interfaceType => "interface"
  | .enumType => "enum"

def typeBraces : TypeKind → BraceSite
  | .classType => .classBody
  | .structType => .structBody
  | .interfaceType => .interfaceBody
  | .enumType => .enumBody

def afterColon (policy : Policy) (nodes : List Node) : List Piece :=
  around true .colon ":" ++ commaSeparated policy nodes

def leading (attributes : List AttributeSection) (listed : List Modifier) : List Piece :=
  visitAll (Node.ofAttributes attributes) ++ modifiers listed

def typeDeclaration (policy : Policy) (frames : Frames) (declaration : TypeDeclaration) :
    List Piece :=
  leading declaration.attributes declaration.modifiers ++ word (typeKeyword declaration.kind) ++
    identifier frames declaration.name .type ++
    chevronList policy (Node.ofTypeParameters declaration.typeParameters) ++
    (if declaration.baseTypes.isEmpty then []
      else afterColon policy (Node.ofTypes declaration.baseTypes)) ++
    visitAll (Node.ofConstraints declaration.constraints) ++
    braced (policy.braces (typeBraces declaration.kind))
      (if declaration.kind = .enumType then
          enumBody policy declaration.trailingComma declaration.members
        else typeBody policy false declaration.members) ++
    afterBody declaration.trailingSemicolon

def delegate (policy : Policy) (frames : Frames) (declaration : DelegateDeclaration) :
    List Piece :=
  leading declaration.attributes declaration.modifiers ++ word "delegate" ++
    visit (Node.ofType declaration.returnType) ++ space ++ identifier frames declaration.name .type ++
    chevronList policy (Node.ofTypeParameters declaration.typeParameters) ++
    spaceIf (policy.spacing .beforeDelegateDeclarationParentheses) ++
    parameterList policy declaration.parameters ++
    visitAll (Node.ofConstraints declaration.constraints) ++ semicolon frames

def attributeTarget : Option String → List Piece
  | none => []
  | some target =>
      if target.isEmpty then [] else word target ++ symbol .colon ":" ++ space

def attributeSection (policy : Policy) (frames : Frames) (found : AttributeSection) : List Piece :=
  symbol .openBracket "[" ++ attributeTarget found.target ++
    commaSeparated policy (found.attributes.map Node.attributeUse) ++ symbol .closeBracket "]" ++
    (match frames.parent? with
      | some (.parameter _) => space
      | some (.typeParameter _) => space
      | _ => newline)

def attributeUse (policy : Policy) (use : Attribute) : List Piece :=
  visit (Node.ofType use.attributeType) ++
    (if !use.arguments.isEmpty || use.explicitParentheses then callArguments policy use.arguments
      else [])

def typedVariables (policy : Policy) (frames : Frames) (type : TypeRef) (declarators : List Node) :
    List Piece :=
  visit (Node.ofType type) ++ space ++ commaSeparated policy declarators ++ semicolon frames

def field (policy : Policy) (frames : Frames) (declaration : FieldDeclaration) : List Piece :=
  if declaration.declarators.isEmpty then fault .fieldWithoutVariables
  else
    leading declaration.attributes declaration.modifiers ++
      typedVariables policy frames declaration.returnType (Node.ofVariables declaration.declarators)

def fixedField (policy : Policy) (frames : Frames) (declaration : FixedFieldDeclaration) :
    List Piece :=
  if declaration.declarators.isEmpty then fault .fixedFieldWithoutVariables
  else
    leading declaration.attributes declaration.modifiers ++ word "fixed" ++ space ++
      typedVariables policy frames declaration.returnType
        (declaration.declarators.map Node.fixedVariable)

def event (policy : Policy) (frames : Frames) (declaration : EventDeclaration) : List Piece :=
  if declaration.declarators.isEmpty then fault .eventWithoutVariables
  else
    leading declaration.attributes declaration.modifiers ++ word "event" ++
      typedVariables policy frames declaration.returnType (Node.ofVariables declaration.declarators)

def fixedVariable (policy : Policy) (frames : Frames) (buffer : FixedVariable) : List Piece :=
  identifier frames buffer.name .field ++
    (match buffer.count with
      | none => []
      | some count =>
          inBrackets (policy.spacing .withinBrackets) (visit (Node.ofExpression count)))

def explicitInterface : Option TypeRef → List Piece
  | none => []
  | some found => visit (Node.ofType found) ++ symbol .dot "."

def memberBody (frames : Frames) : Option Block → List Piece
  | none => semicolon frames
  | some found => visit (.block found)

def method (policy : Policy) (frames : Frames) (declaration : MethodDeclaration) : List Piece :=
  leading declaration.attributes declaration.modifiers ++
    visit (Node.ofType declaration.returnType) ++ space ++
    explicitInterface declaration.explicitInterface ++
    identifier frames declaration.name .method ++
    chevronList policy (Node.ofTypeParameters declaration.typeParameters) ++
    spaceIf (policy.spacing .beforeMethodDeclarationParentheses) ++
    parameterList policy declaration.parameters ++
    visitAll (Node.ofConstraints declaration.constraints) ++ memberBody frames declaration.body

def enclosingName (frames : Frames) (own : Identifier) : Identifier :=
  match frames.parent? with
  | some (.typeDeclaration declaration) => declaration.name
  | _ => own

def constructor (policy : Policy) (frames : Frames) (declaration : ConstructorDeclaration) :
    List Piece :=
  leading declaration.attributes declaration.modifiers ++
    identifier frames (enclosingName frames declaration.name) .type ++
    spaceIf (policy.spacing .beforeConstructorDeclarationParentheses) ++
    parameterList policy declaration.parameters ++
    (match declaration.initializer with
      | none => []
      | some initializer => space ++ visit (.constructorInitializer initializer)) ++
    memberBody frames declaration.body

def constructorInitializer (policy : Policy) (initializer : ConstructorInitializer) : List Piece :=
  symbol .colon ":" ++ space ++
    word (match initializer.target with
      | .base => "base"
      | .this => "this") ++
    callArguments policy initializer.arguments

def destructor (policy : Policy) (frames : Frames) (declaration : DestructorDeclaration) :
    List Piece :=
  leading declaration.attributes declaration.modifiers ++
    spaceIf (!declaration.modifiers.isEmpty) ++ symbol .operator "~" ++
    identifier frames (enclosingName frames declaration.name) .type ++
    spaceIf (policy.spacing .beforeConstructorDeclarationParentheses) ++ inParentheses false [] ++
    memberBody frames declaration.body

def accessorList (policy : Policy) (site : BraceSite) (accessors : List Accessor) : List Piece :=
  braced (policy.braces site) (visitAll (Node.ofAccessors accessors)) ++ newline

def property (policy : Policy) (frames : Frames) (declaration : PropertyDeclaration) :
    List Piece :=
  leading declaration.attributes declaration.modifiers ++
    visit (Node.ofType declaration.returnType) ++ space ++
    explicitInterface declaration.explicitInterface ++
    identifier frames declaration.name .property ++
    accessorList policy .property declaration.accessors

def indexer (policy : Policy) (declaration : IndexerDeclaration) : List Piece :=
  leading declaration.attributes declaration.modifiers ++
    visit (Node.ofType declaration.returnType) ++ space ++
    explicitInterface declaration.explicitInterface ++ word "this" ++
    spaceIf (policy.spacing .beforeMethodDeclarationParentheses) ++
    bracketedList policy (policy.spacing .withinMethodDeclarationParentheses)
      (Node.ofParameters declaration.parameters) ++
    accessorList policy .property declaration.accessors

def customEvent (policy : Policy) (frames : Frames) (declaration : CustomEventDeclaration) :
    List Piece :=
  leading declaration.attributes declaration.modifiers ++ word "event" ++
    visit (Node.ofType declaration.returnType) ++ space ++
    explicitInterface declaration.explicitInterface ++
    identifier frames declaration.name .event ++ accessorList policy .event declaration.accessors

def accessorFits (frames : Frames) (kind : AccessorKind) : Bool :=
  match frames.parent? with
  | some (.property _) => kind = .get || kind = .set
  | some (.indexer _) => kind = .get || kind = .set
  | some (.customEvent _) => kind = .add || kind = .remove
  | _ => true

def accessor (frames : Frames) (found : Accessor) : List Piece :=
  if !accessorFits frames found.kind then fault (.misplacedAccessor found.kind.keyword)
  else
    leading found.attributes found.modifiers ++ rawIdentifier found.kind.keyword .keyword ++
      memberBody frames found.body

def conversionKeyword (operator : OverloadableOperator) : String :=
  if operator = .explicit then "explicit" else "implicit"

def operator (policy : Policy) (frames : Frames) (declaration : OperatorDeclaration) :
    List Piece :=
  let returnType := visit (Node.ofType declaration.returnType)
  leading declaration.attributes declaration.modifiers ++
    (match declaration.operator.token? with
      | some token => returnType ++ word "operator" ++ space ++ symbol .operator token
      | none =>
          word (conversionKeyword declaration.operator) ++ word "operator" ++ space ++ returnType) ++
    spaceIf (policy.spacing .beforeMethodDeclarationParentheses) ++
    parameterList policy declaration.parameters ++ memberBody frames declaration.body

def enumMember (policy : Policy) (frames : Frames) (member : EnumMember) : List Piece :=
  leading member.attributes member.modifiers ++ identifier frames member.name .enumMember ++
    assigned policy member.initializer

def parameterModifier : ParameterModifier → List Piece
  | .plain => []
  | .ref => word "ref"
  | .out => word "out"
  | .params => word "params"
  | .this => word "this"

def parameter (policy : Policy) (frames : Frames) (found : Parameter) : List Piece :=
  visitAll (Node.ofAttributes found.attributes) ++ parameterModifier found.modifier ++
    visitAll (Node.ofType? found.parameterType) ++
    (match found.name with
      | none => []
      | some name => spaceIf found.parameterType.isSome ++ identifier frames name .parameter) ++
    assigned policy found.defaultExpression

def typeParameter (frames : Frames) (found : TypeParameter) : List Piece :=
  visitAll (Node.ofAttributes found.attributes) ++
    (match found.variance with
      | .invariant => []
      | .covariant => word "out"
      | .contravariant => word "in") ++
    identifier frames found.name .typeParameter

def constraint (policy : Policy) (frames : Frames) (found : Constraint) : List Piece :=
  space ++ word "where" ++ identifier frames found.typeParameter .typeParameter ++
    afterColon policy (Node.ofTypes found.baseTypes)

def variableClass (frames : Frames) : TokenClass :=
  match frames.parent? with
  | some (.field _) => .field
  | some (.fixedField _) => .field
  | some (.event _) => .event
  | _ => .localVariable

def variableInitializer (policy : Policy) (frames : Frames) (found : VariableInitializer) :
    List Piece :=
  identifier frames found.name (variableClass frames) ++ assigned policy found.initializer

def referencedOperator (reference : DocumentationReference) : List Piece :=
  match reference.operator with
  | none => fault .referenceWithoutOperator
  | some operator =>
      match operator.token?, reference.conversionReturnType with
      | some token, returnType =>
          word "operator" ++ space ++ symbol .operator token ++ hide (Node.ofType? returnType)
      | none, none => fault .conversionWithoutType
      | none, some returnType =>
          word (conversionKeyword operator) ++ word "operator" ++ space ++
            visit (Node.ofType returnType)

def referencedSymbol (frames : Frames) (reference : DocumentationReference) : List Piece :=
  let named (tokenClass : TokenClass) :=
    match reference.memberName with
    | none => fault .referenceWithoutName
    | some name => identifier frames name tokenClass
  match reference.symbolKind with
  | .typeDefinition => if reference.declaringType.isNone then fault .referenceWithoutType else []
  | .indexer => word "this"
  | .operator => referencedOperator reference
  | .field => named .field
  | .property => named .property
  | .event => named .event
  | .method => named .method
  | .constructor => named .method
  | .destructor => named .method

def documentationReference (policy : Policy) (frames : Frames)
    (reference : DocumentationReference) : List Piece :=
  let parameters := Node.ofParameters reference.parameters
  let within := policy.spacing .withinMethodDeclarationParentheses
  visitAll (Node.ofType? reference.declaringType) ++
    (if reference.declaringType.isSome && reference.symbolKind ≠ .typeDefinition then symbol .dot "."
      else []) ++
    referencedSymbol frames reference ++
    chevronList policy (Node.ofTypes reference.typeArguments) ++
    (if !reference.hasParameterList then hide parameters
      else
        spaceIf (policy.spacing .beforeMethodDeclarationParentheses) ++
          (if reference.symbolKind = .indexer then bracketedList policy within parameters
            else parenthesizedList policy within parameters))

end Layout

end CSharpLayout
