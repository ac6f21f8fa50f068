import CSharpLayout.Node.Basic

/-! The children of a node, in the order they are printed, and the walk that visits every node before its
children. Each child is smaller than its parent, which is what recursion on nodes rests on. -/

namespace CSharpLayout

mutual

/-- The nodes embedded in a placeholder. Nested placeholders are no nodes of their own. -/
def Pattern.embedded : Pattern → List Node
  | .any _ => []
  | .backreference _ => []
  | .identifierBackreference _ => []
  | .choice alternatives => embeddedInItems alternatives
  | .named _ child => child.embedded
  | .repeated _ _ child => child.embedded
  | .optional child => child.embedded

def PatternItem.embedded : PatternItem → List Node
  | .pattern nested => nested.embedded
  | .type found => [Node.ofType found]
  | .expression found => [Node.ofExpression found]
  | .statement found => [Node.ofStatement found]
  | .value _ => []

def embeddedInItems : List PatternItem → List Node
  | [] => []
  | item :: rest => item.embedded ++ embeddedInItems rest

end

namespace Node

def ofTypes (types : List TypeRef) : List Node := types.map ofType

def ofExpressions (expressions : List Expression) : List Node := expressions.map ofExpression

def ofStatements (statements : List Statement) : List Node := statements.map ofStatement

def ofAttributes (attributes : List AttributeSection) : List Node := attributes.map attributeSection

def ofParameters (parameters : List Parameter) : List Node := parameters.map parameter

def ofTypeParameters (parameters : List TypeParameter) : List Node := parameters.map typeParameter

def ofConstraints (constraints : List Constraint) : List Node := constraints.map constraint

def ofSpecifiers (specifiers : List ArraySpecifier) : List Node := specifiers.map arraySpecifier

def ofVariables (declarators : List VariableInitializer) : List Node :=
  declarators.map variableInitializer

def ofAccessors (accessors : List Accessor) : List Node := accessors.map accessor

def ofType? (type : Option TypeRef) : List Node := type.toList.map ofType

def ofExpression? (expression : Option Expression) : List Node := expression.toList.map ofExpression

def ofBlock? (body : Option Block) : List Node := body.toList.map block

def childrenOfType : TypeRef → List Node
  | .primitive _ => []
  | .simple _ typeArguments => ofTypes typeArguments
  | .member target _ _ typeArguments => ofType target :: ofTypes typeArguments
  | .composed baseType _ _ arraySpecifiers => ofType baseType :: ofSpecifiers arraySpecifiers
  | .pattern _ => []

def childrenOfExpression : Expression → List Node
  | .anonymousMethod _ _ parameters body => ofParameters parameters ++ [.block body]
  | .undocumented _ arguments => ofExpressions arguments
  | .arrayCreate elementType arguments additionalSpecifiers initializer =>
      ofType elementType :: (ofExpressions arguments ++ ofSpecifiers additionalSpecifiers ++
        initializer.toList.map arrayInitializer)
  | .arrayInitializer initializer => ofExpressions initializer.elements
  | .asType operand targetType => [ofExpression operand, ofType targetType]
  | .assignment left _ right => [ofExpression left, ofExpression right]
  | .baseReference => []
  | .binary left _ right => [ofExpression left, ofExpression right]
  | .cast targetType operand => [ofType targetType, ofExpression operand]
  | .checked operand => [ofExpression operand]
  | .conditional condition whenTrue whenFalse =>
      [ofExpression condition, ofExpression whenTrue, ofExpression whenFalse]
  | .defaultValue targetType => [ofType targetType]
  | .direction _ operand => [ofExpression operand]
  | .identifier _ typeArguments => ofTypes typeArguments
  | .indexer target arguments => ofExpression target :: ofExpressions arguments
  | .invocation target arguments => ofExpression target :: ofExpressions arguments
  | .isType operand targetType => [ofExpression operand, ofType targetType]
  | .lambda _ parameters body => ofParameters parameters ++ [ofLambdaBody body]
  | .memberReference target _ typeArguments => ofExpression target :: ofTypes typeArguments
  | .namedArgument _ operand => [ofExpression operand]
  | .named _ operand => [ofExpression operand]
  | .nullReference => []
  | .objectCreate createdType arguments _ initializer =>
      ofType createdType :: (ofExpressions arguments ++ initializer.toList.map arrayInitializer)
  | .anonymousTypeCreate initializers => ofExpressions initializers
  | .parenthesized operand => [ofExpression operand]
  | .pointerReference target _ typeArguments => ofExpression target :: ofTypes typeArguments
  | .literal _ _ => []
  | .sizeOf targetType => [ofType targetType]
  | .stackAlloc elementType count => [ofType elementType, ofExpression count]
  | .thisReference => []
  | .typeOf targetType => [ofType targetType]
  | .typeReference targetType => [ofType targetType]
  | .unary _ operand => [ofExpression operand]
  | .unchecked operand => [ofExpression operand]
  | .query found => found.clauses.map queryClause
  | .pattern _ => []

def childrenOfClause : QueryClause → List Node
  | .continuation preceding _ => [.query preceding]
  | .fromIn variableType _ operand => ofType? variableType ++ [ofExpression operand]
  | .letBe _ operand => [ofExpression operand]
  | .whereTrue condition => [ofExpression condition]
  | .join variableType _ inExpression onExpression equalsExpression _ =>
      ofType? variableType ++
        [ofExpression inExpression, ofExpression onExpression, ofExpression equalsExpression]
  | .orderBy orderings => orderings.map queryOrdering
  | .select operand => [ofExpression operand]
  | .groupBy projection key => [ofExpression projection, ofExpression key]

def childrenOfStatement : Statement → List Node
  | .block found => ofStatements found.statements
  | .breaks => []
  | .checked body => [.block body]
  | .continues => []
  | .doWhile body condition => [ofStatement body, ofExpression condition]
  | .empty => []
  | .expression operand => [ofExpression operand]
  | .fixed variableType declarators body =>
      ofType variableType :: (ofVariables declarators ++ [ofStatement body])
  | .foreach variableType _ inExpression body =>
      [ofType variableType, ofExpression inExpression, ofStatement body]
  | .forLoop initializers condition iterators body =>
      ofStatements initializers ++ ofExpression? condition ++ ofStatements iterators ++
        [ofStatement body]
  | .goto _ => []
  | .gotoCase label => [ofExpression label]
  | .gotoDefault => []
  | .ifElse condition whenTrue whenFalse =>
      [ofExpression condition, ofStatement whenTrue] ++ whenFalse.toList.map ofStatement
  | .label _ => []
  | .lock operand body => [ofExpression operand, ofStatement body]
  | .returns operand => ofExpression? operand
  | .switch operand sections => ofExpression operand :: sections.map switchSection
  | .throws operand => ofExpression? operand
  | .tryCatch tryBlock catchClauses finallyBlock =>
      .block tryBlock :: (catchClauses.map catchClause ++ ofBlock? finallyBlock)
  | .unchecked body => [.block body]
  | .unsafeBlock body => [.block body]
  | .usingResource resource body => [ofUsingResource resource, ofStatement body]
  | .localVariables declaration =>
      ofType declaration.variableType :: ofVariables declaration.declarators
  | .whileLoop condition body => [ofExpression condition, ofStatement body]
  | .yieldBreak => []
  | .yieldReturn operand => [ofExpression operand]
  | .comment _ => []
  | .directive _ => []
  | .pattern _ => []

def children : Node → List Node
  | .syntaxTree tree => tree.members.map ofNamespaceMember
  | .namespaceDeclaration declaration =>
      ofType declaration.name :: declaration.members.map ofNamespaceMember
  | .usingDeclaration declaration => [ofType declaration.target]
  | .usingAlias declaration => [ofType declaration.target]
  | .externAlias _ => []
  | .typeDeclaration declaration =>
      ofAttributes declaration.attributes ++ ofTypeParameters declaration.typeParameters ++
        ofTypes declaration.baseTypes ++ ofConstraints declaration.constraints ++
        declaration.members.map ofTypeMember
  | .delegate declaration =>
      ofAttributes declaration.attributes ++ [ofType declaration.returnType] ++
        ofTypeParameters declaration.typeParameters ++ ofParameters declaration.parameters ++
        ofConstraints declaration.constraints
  | .attributeSection attributes => attributes.attributes.map attributeUse
  | .attributeUse use => ofType use.attributeType :: ofExpressions use.arguments
  | .field declaration =>
      ofAttributes declaration.attributes ++ [ofType declaration.returnType] ++
        ofVariables declaration.declarators
  | .fixedField declaration =>
      ofAttributes declaration.attributes ++ [ofType declaration.returnType] ++
        declaration.declarators.map fixedVariable
  | .fixedVariable buffer => ofExpression? buffer.count
  | .method declaration =>
      ofAttributes declaration.attributes ++ [ofType declaration.returnType] ++
        ofType? declaration.explicitInterface ++ ofTypeParameters declaration.typeParameters ++
        ofParameters declaration.parameters ++ ofConstraints declaration.constraints ++
        ofBlock? declaration.body
  | .constructor declaration =>
      ofAttributes declaration.attributes ++ ofParameters declaration.parameters ++
        declaration.initializer.toList.map constructorInitializer ++ ofBlock? declaration.body
  | .constructorInitializer initializer => ofExpressions initializer.arguments
  | .destructor declaration => ofAttributes declaration.attributes ++ ofBlock? declaration.body
  | .property declaration =>
      ofAttributes declaration.attributes ++ [ofType declaration.returnType] ++
        ofType? declaration.explicitInterface ++ ofAccessors declaration.accessors
  | .indexer declaration =>
      ofAttributes declaration.attributes ++ [ofType declaration.returnType] ++
        ofType? declaration.explicitInterface ++ ofParameters declaration.parameters ++
        ofAccessors declaration.accessors
  | .accessor found => ofAttributes found.attributes ++ ofBlock? found.body
  | .event declaration =>
      ofAttributes declaration.attributes ++ [ofType declaration.returnType] ++
        ofVariables declaration.declarators
  | .customEvent declaration =>
      ofAttributes declaration.attributes ++ [ofType declaration.returnType] ++
        ofType? declaration.explicitInterface ++ ofAccessors declaration.accessors
  | .operator declaration =>
      ofAttributes declaration.attributes ++ [ofType declaration.returnType] ++
        ofParameters declaration.parameters ++ ofBlock? declaration.body
  | .enumMember member => ofAttributes member.attributes ++ ofExpression? member.initializer
  | .parameter found =>
      ofAttributes found.attributes ++ ofType? found.parameterType ++
        ofExpression? found.defaultExpression
  | .typeParameter found => ofAttributes found.attributes
  | .constraint found => ofTypes found.baseTypes
  | .variableInitializer found => ofExpression? found.initializer
  | .documentationReference reference =>
      ofType? reference.declaringType ++
        (if reference.symbolKind = .operator then ofType? reference.conversionReturnType else []) ++
        ofTypes reference.typeArguments ++ ofParameters reference.parameters
  | .type found => childrenOfType found
  | .arraySpecifier _ => []
  | .expression found => childrenOfExpression found
  | .arrayInitializer initializer => ofExpressions initializer.elements
  | .query found => found.clauses.map queryClause
  | .queryClause clause => childrenOfClause clause
  | .queryOrdering ordering => [ofExpression ordering.expression]
  | .statement found => childrenOfStatement found
  | .block found => ofStatements found.statements
  | .variableDeclaration declaration =>
      ofType declaration.variableType :: ofVariables declaration.declarators
  | .switchSection found => found.labels.map caseLabel ++ ofStatements found.statements
  | .caseLabel label => ofExpression? label.expression
  | .catchClause clause =>
      ofType? clause.catchType ++ ofExpression? clause.condition ++ [.block clause.body]
  | .comment _ => []
  | .directive _ => []
  | .pattern found => found.embedded

end Node

end CSharpLayout
