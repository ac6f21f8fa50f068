import CSharpLayout.Json.Row
import CSharpLayout.Syntax.Tree

/-! Trees as JSON values. Entries follow the order of the fields; those that may be left out are written only
when they say something. -/

namespace CSharpLayout

open Json

def Identifier.toJson (identifier : Identifier) : Json :=
  .object ([("name", .string identifier.name)] ++ entryOfFlag "verbatim" identifier.verbatim ++
    entryOf "class" (identifier.tokenClass.map spelled))

def Literal.toJson : Literal → Json
  | .null => .object [("type", .string "Null")]
  | .bool value => .object [("type", .string "Bool"), ("value", .bool value)]
  | .char value => .object [("type", .string "Char"), ("value", .string (String.singleton value))]
  | .string value => .object [("type", .string "String"), ("value", .string value)]
  | .int value => .object [("type", .string "Int"), ("value", .integer value.toInt)]
  | .uint value => .object [("type", .string "UInt"), ("value", .integer value.toNat)]
  | .long value => .object [("type", .string "Long"), ("value", .integer value.toInt)]
  | .ulong value => .object [("type", .string "ULong"), ("value", .integer value.toNat)]
  | .float value => .object [("type", .string "Float"), ("value", .number (.single value))]
  | .double value => .object [("type", .string "Double"), ("value", .number (.double value))]
  | .decimal digits => .object [("type", .string "Decimal"), ("value", .string digits)]

def ArraySpecifier.toJson (specifier : ArraySpecifier) : Json :=
  .object [("dimensions", .integer specifier.dimensions.toNat)]

def Comment.entries (comment : Comment) : List (String × Json) :=
  [("comment_type", spelled comment.kind), ("content", .string comment.content)]

def Directive.entries (directive : Directive) : List (String × Json) :=
  [("directive_type", spelled directive.kind)] ++ entryOf "argument" (directive.argument.map .string)

def Json.tagged (key tag : String) (entries : List (String × Json)) : Json :=
  .object ((key, .string tag) :: entries)

mutual

def TypeRef.toJson : TypeRef → Json
  | .primitive keyword => tagged "kind" "Primitive" [("keyword", .string keyword)]
  | .simple identifier typeArguments =>
      tagged "kind" "Simple" ([("identifier", identifier.toJson)] ++
        entryOfList "type_arguments" (typeArguments.map TypeRef.toJson))
  | .member target isDoubleColon memberName typeArguments =>
      tagged "kind" "Member" ([("target", target.toJson), ("is_double_colon", .bool isDoubleColon),
        ("member_name", memberName.toJson)] ++
        entryOfList "type_arguments" (typeArguments.map TypeRef.toJson))
  | .composed baseType nullable pointerRank arraySpecifiers =>
      tagged "kind" "Composed" ([("base_type", baseType.toJson),
        ("has_nullable_specifier", .bool nullable), ("pointer_rank", .integer pointerRank.toNat)] ++
        entryOfList "array_specifiers" (arraySpecifiers.map ArraySpecifier.toJson))
  | .pattern pattern => tagged "kind" "Pattern" pattern.entries
termination_by value => sizeOf value

def Pattern.entries : Pattern → List (String × Json)
  | .any groupName =>
      [("pattern", .string "Any")] ++ entryOf "group_name" (groupName.map .string)
  | .backreference groupName =>
      [("pattern", .string "Backreference"), ("group_name", .string groupName)]
  | .identifierBackreference groupName =>
      [("pattern", .string "IdentifierBackreference"), ("group_name", .string groupName)]
  | .choice alternatives =>
      [("pattern", .string "Choice"), ("alternatives", .array (alternatives.map PatternItem.toJson))]
  | .named groupName child =>
      [("pattern", .string "Named")] ++ entryOf "group_name" (groupName.map .string) ++
        [("child", child.toJson)]
  | .repeated min max child =>
      [("pattern", .string "Repeat"), ("min", .integer min.toNat)] ++
        entryOf "max" (max.map fun bound => .integer bound.toNat) ++ [("child", child.toJson)]
  | .optional child => [("pattern", .string "Optional"), ("child", child.toJson)]
termination_by value => sizeOf value

def PatternItem.toJson : PatternItem → Json
  | .pattern pattern => .object [("pattern", .object pattern.entries)]
  | .type type => .object [("type", type.toJson)]
  | .expression expression => .object [("expression", expression.toJson)]
  | .statement statement => .object [("statement", statement.toJson)]
  | .value value => .object [("value", value.toJson)]
termination_by value => sizeOf value

def Expression.toJson : Expression → Json
  | .anonymousMethod isAsync hasParameterList parameters body =>
      tagged "kind" "AnonymousMethod" ([("is_async", .bool isAsync),
        ("has_parameter_list", .bool hasParameterList)] ++
        entryOfList "parameters" (parameters.map Parameter.toJson) ++ [("body", .object body.entries)])
  | .undocumented operation arguments =>
      tagged "kind" "Undocumented" ([("operation", spelled operation)] ++
        entryOfList "arguments" (arguments.map Expression.toJson))
  | .arrayCreate elementType arguments additionalSpecifiers initializer =>
      tagged "kind" "ArrayCreate" ([("element_type", elementType.toJson)] ++
        entryOfList "arguments" (arguments.map Expression.toJson) ++
        entryOfList "additional_specifiers" (additionalSpecifiers.map ArraySpecifier.toJson) ++
        (match initializer with
          | none => []
          | some value => [("initializer", .object value.entries)]))
  | .arrayInitializer initializer => tagged "kind" "ArrayInitializer" initializer.entries
  | .asType expression targetType =>
      tagged "kind" "As" [("expression", expression.toJson), ("target_type", targetType.toJson)]
  | .assignment left operator right =>
      tagged "kind" "Assignment"
        [("left", left.toJson), ("operator", spelled operator), ("right", right.toJson)]
  | .baseReference => tagged "kind" "BaseReference" []
  | .binary left operator right =>
      tagged "kind" "Binary"
        [("left", left.toJson), ("operator", spelled operator), ("right", right.toJson)]
  | .cast targetType expression =>
      tagged "kind" "Cast" [("target_type", targetType.toJson), ("expression", expression.toJson)]
  | .checked expression => tagged "kind" "Checked" [("expression", expression.toJson)]
  | .conditional condition whenTrue whenFalse =>
      tagged "kind" "Conditional" [("condition", condition.toJson),
        ("true_expression", whenTrue.toJson), ("false_expression", whenFalse.toJson)]
  | .defaultValue targetType => tagged "kind" "DefaultValue" [("target_type", targetType.toJson)]
  | .direction direction expression =>
      tagged "kind" "Direction"
        [("direction", spelled direction), ("expression", expression.toJson)]
  | .identifier identifier typeArguments =>
      tagged "kind" "Identifier" ([("identifier", identifier.toJson)] ++
        entryOfList "type_arguments" (typeArguments.map TypeRef.toJson))
  | .indexer target arguments =>
      tagged "kind" "Indexer"
        [("target", target.toJson), ("arguments", .array (arguments.map Expression.toJson))]
  | .invocation target arguments =>
      tagged "kind" "Invocation"
        [("target", target.toJson), ("arguments", .array (arguments.map Expression.toJson))]
  | .isType expression targetType =>
      tagged "kind" "Is" [("expression", expression.toJson), ("target_type", targetType.toJson)]
  | .lambda isAsync parameters body =>
      tagged "kind" "Lambda" [("is_async", .bool isAsync),
        ("parameters", .array (parameters.map Parameter.toJson)), ("body", body.toJson)]
  | .memberReference target memberName typeArguments =>
      tagged "kind" "MemberReference" ([("target", target.toJson),
        ("member_name", memberName.toJson)] ++
        entryOfList "type_arguments" (typeArguments.map TypeRef.toJson))
  | .namedArgument name expression =>
      tagged "kind" "NamedArgument" [("name", name.toJson), ("expression", expression.toJson)]
  | .named name expression =>
      tagged "kind" "Named" [("name", name.toJson), ("expression", expression.toJson)]
  | .nullReference => tagged "kind" "NullReference" []
  | .objectCreate createdType arguments explicitParentheses initializer =>
      tagged "kind" "ObjectCreate" ([("created_type", createdType.toJson)] ++
        entryOfList "arguments" (arguments.map Expression.toJson) ++
        [("explicit_parentheses", .bool explicitParentheses)] ++
        (match initializer with
          | none => []
          | some value => [("initializer", .object value.entries)]))
  | .anonymousTypeCreate initializers =>
      tagged "kind" "AnonymousTypeCreate"
        [("initializers", .array (initializers.map Expression.toJson))]
  | .parenthesized expression => tagged "kind" "Parenthesized" [("expression", expression.toJson)]
  | .pointerReference target memberName typeArguments =>
      tagged "kind" "PointerReference" ([("target", target.toJson),
        ("member_name", memberName.toJson)] ++
        entryOfList "type_arguments" (typeArguments.map TypeRef.toJson))
  | .literal value raw =>
      tagged "kind" "Primitive" ([("value", value.toJson)] ++ entryOf "raw" (raw.map .string))
  | .sizeOf targetType => tagged "kind" "SizeOf" [("target_type", targetType.toJson)]
  | .stackAlloc elementType count =>
      tagged "kind" "StackAlloc"
        [("element_type", elementType.toJson), ("count_expression", count.toJson)]
  | .thisReference => tagged "kind" "ThisReference" []
  | .typeOf targetType => tagged "kind" "TypeOf" [("target_type", targetType.toJson)]
  | .typeReference targetType => tagged "kind" "TypeReference" [("target_type", targetType.toJson)]
  | .unary operator expression =>
      tagged "kind" "Unary" [("operator", spelled operator), ("expression", expression.toJson)]
  | .unchecked expression => tagged "kind" "Unchecked" [("expression", expression.toJson)]
  | .query query => tagged "kind" "Query" query.entries
  | .pattern pattern => tagged "kind" "Pattern" pattern.entries
termination_by value => sizeOf value

def LambdaBody.toJson : LambdaBody → Json
  | .expression expression => .object [("expression", expression.toJson)]
  | .block block => .object [("block", .object block.entries)]
termination_by value => sizeOf value

def ArrayInitializer.entries : ArrayInitializer → List (String × Json)
  | ⟨elements, explicitBraces, trailingComma⟩ =>
      [("elements", .array (elements.map Expression.toJson)),
        ("explicit_braces", .bool explicitBraces), ("trailing_comma", .bool trailingComma)]
termination_by value => sizeOf value
decreasing_by
  have inside := List.sizeOf_lt_of_mem ‹_ ∈ elements›
  simp only [ArrayInitializer.mk.sizeOf_spec]
  omega

def Query.entries : Query → List (String × Json)
  | ⟨clauses⟩ => [("clauses", .array (clauses.map QueryClause.toJson))]
termination_by value => sizeOf value

def QueryClause.toJson : QueryClause → Json
  | .continuation preceding identifier =>
      tagged "clause" "Continuation"
        [("preceding_query", .object preceding.entries), ("identifier", identifier.toJson)]
  | .fromIn variableType identifier expression =>
      tagged "clause" "From" ((match variableType with
          | none => []
          | some value => [("variable_type", value.toJson)]) ++
        [("identifier", identifier.toJson), ("expression", expression.toJson)])
  | .letBe identifier expression =>
      tagged "clause" "Let" [("identifier", identifier.toJson), ("expression", expression.toJson)]
  | .whereTrue condition => tagged "clause" "Where" [("condition", condition.toJson)]
  | .join variableType joinIdentifier inExpression onExpression equalsExpression intoIdentifier =>
      tagged "clause" "Join" ((match variableType with
          | none => []
          | some value => [("variable_type", value.toJson)]) ++
        [("join_identifier", joinIdentifier.toJson), ("in_expression", inExpression.toJson),
          ("on_expression", onExpression.toJson), ("equals_expression", equalsExpression.toJson)] ++
        entryOf "into_identifier" (intoIdentifier.map Identifier.toJson))
  | .orderBy orderings =>
      tagged "clause" "OrderBy" [("orderings", .array (orderings.map QueryOrdering.toJson))]
  | .select expression => tagged "clause" "Select" [("expression", expression.toJson)]
  | .groupBy projection key =>
      tagged "clause" "Group" [("projection", projection.toJson), ("key", key.toJson)]
termination_by value => sizeOf value

def QueryOrdering.toJson : QueryOrdering → Json
  | ⟨expression, direction⟩ =>
      .object [("expression", expression.toJson), ("direction", spelled direction)]
termination_by value => sizeOf value

def Attribute.toJson : Attribute → Json
  | ⟨attributeType, arguments, explicitParentheses⟩ =>
      .object ([("attribute_type", attributeType.toJson)] ++
        entryOfList "arguments" (arguments.map Expression.toJson) ++
        [("explicit_parentheses", .bool explicitParentheses)])
termination_by value => sizeOf value
decreasing_by
  · simp only [Attribute.mk.sizeOf_spec]
    omega
  · have inside := List.sizeOf_lt_of_mem ‹_ ∈ arguments›
    simp only [Attribute.mk.sizeOf_spec]
    omega

def AttributeSection.entries : AttributeSection → List (String × Json)
  | ⟨target, attributes⟩ =>
      entryOf "target" (target.map .string) ++
        [("attributes", .array (attributes.map Attribute.toJson))]
termination_by value => sizeOf value

def Parameter.toJson : Parameter → Json
  | ⟨attributes, modifier, parameterType, name, defaultExpression⟩ =>
      .object (entryOfList "attributes" (attributes.map fun listed => .object listed.entries) ++
        [("modifier", spelled modifier)] ++
        (match parameterType with
          | none => []
          | some value => [("parameter_type", value.toJson)]) ++
        entryOf "name" (name.map Identifier.toJson) ++
        (match defaultExpression with
          | none => []
          | some value => [("default_expression", value.toJson)]))
termination_by value => sizeOf value

def VariableInitializer.toJson : VariableInitializer → Json
  | ⟨name, initializer⟩ =>
      .object ([("name", name.toJson)] ++
        (match initializer with
          | none => []
          | some value => [("initializer", value.toJson)]))
termination_by value => sizeOf value

def VariableDeclaration.entries : VariableDeclaration → List (String × Json)
  | ⟨modifiers, variableType, declarators⟩ =>
      entryOfList "modifiers" (modifiers.map spelled) ++
        [("variable_type", variableType.toJson),
          ("variables", .array (declarators.map VariableInitializer.toJson))]
termination_by value => sizeOf value

def Block.entries : Block → List (String × Json)
  | ⟨statements⟩ => [("statements", .array (statements.map Statement.toJson))]
termination_by value => sizeOf value

def Statement.toJson : Statement → Json
  | .block block => tagged "kind" "Block" block.entries
  | .breaks => tagged "kind" "Break" []
  | .checked body => tagged "kind" "Checked" [("body", .object body.entries)]
  | .continues => tagged "kind" "Continue" []
  | .doWhile body condition =>
      tagged "kind" "DoWhile"
        [("embedded_statement", body.toJson), ("condition", condition.toJson)]
  | .empty => tagged "kind" "Empty" []
  | .expression expression => tagged "kind" "Expression" [("expression", expression.toJson)]
  | .fixed variableType declarators body =>
      tagged "kind" "Fixed" [("variable_type", variableType.toJson),
        ("variables", .array (declarators.map VariableInitializer.toJson)),
        ("embedded_statement", body.toJson)]
  | .foreach variableType variableName inExpression body =>
      tagged "kind" "Foreach" [("variable_type", variableType.toJson),
        ("variable_name", variableName.toJson), ("in_expression", inExpression.toJson),
        ("embedded_statement", body.toJson)]
  | .forLoop initializers condition iterators body =>
      tagged "kind" "For" ([("initializers", .array (initializers.map Statement.toJson))] ++
        (match condition with
          | none => []
          | some value => [("condition", value.toJson)]) ++
        [("iterators", .array (iterators.map Statement.toJson)),
          ("embedded_statement", body.toJson)])
  | .goto label => tagged "kind" "Goto" [("label", label.toJson)]
  | .gotoCase label => tagged "kind" "GotoCase" [("label_expression", label.toJson)]
  | .gotoDefault => tagged "kind" "GotoDefault" []
  | .ifElse condition whenTrue whenFalse =>
      tagged "kind" "IfElse" ([("condition", condition.toJson),
        ("true_statement", whenTrue.toJson)] ++
        (match whenFalse with
          | none => []
          | some value => [("false_statement", value.toJson)]))
  | .label label => tagged "kind" "Label" [("label", label.toJson)]
  | .lock expression body =>
      tagged "kind" "Lock"
        [("expression", expression.toJson), ("embedded_statement", body.toJson)]
  | .returns expression =>
      tagged "kind" "Return" (match expression with
        | none => []
        | some value => [("expression", value.toJson)])
  | .switch expression sections =>
      tagged "kind" "Switch" [("expression", expression.toJson),
        ("sections", .array (sections.map SwitchSection.toJson))]
  | .throws expression =>
      tagged "kind" "Throw" (match expression with
        | none => []
        | some value => [("expression", value.toJson)])
  | .tryCatch tryBlock catchClauses finallyBlock =>
      tagged "kind" "TryCatch" ([("try_block", .object tryBlock.entries),
        ("catch_clauses", .array (catchClauses.map CatchClause.toJson))] ++
        (match finallyBlock with
          | none => []
          | some value => [("finally_block", .object value.entries)]))
  | .unchecked body => tagged "kind" "Unchecked" [("body", .object body.entries)]
  | .unsafeBlock body => tagged "kind" "Unsafe" [("body", .object body.entries)]
  | .usingResource resource body =>
      tagged "kind" "Using" [("resource", resource.toJson), ("embedded_statement", body.toJson)]
  | .localVariables declaration => tagged "kind" "VariableDeclaration" declaration.entries
  | .whileLoop condition body =>
      tagged "kind" "While" [("condition", condition.toJson), ("embedded_statement", body.toJson)]
  | .yieldBreak => tagged "kind" "YieldBreak" []
  | .yieldReturn expression => tagged "kind" "YieldReturn" [("expression", expression.toJson)]
  | .comment comment => tagged "kind" "Comment" comment.entries
  | .directive directive => tagged "kind" "Directive" directive.entries
  | .pattern pattern => tagged "kind" "Pattern" pattern.entries
termination_by value => sizeOf value

def UsingResource.toJson : UsingResource → Json
  | .declaration declaration => .object [("declaration", .object declaration.entries)]
  | .expression expression => .object [("expression", expression.toJson)]
termination_by value => sizeOf value

def SwitchSection.toJson : SwitchSection → Json
  | ⟨labels, statements⟩ =>
      .object [("case_labels", .array (labels.map CaseLabel.toJson)),
        ("statements", .array (statements.map Statement.toJson))]
termination_by value => sizeOf value

def CaseLabel.toJson : CaseLabel → Json
  | ⟨expression⟩ =>
      .object (match expression with
        | none => []
        | some value => [("expression", value.toJson)])
termination_by value => sizeOf value

def CatchClause.toJson : CatchClause → Json
  | ⟨catchType, variableName, condition, body⟩ =>
      .object ((match catchType with
          | none => []
          | some value => [("catch_type", value.toJson)]) ++
        entryOf "variable_name" (variableName.map Identifier.toJson) ++
        (match condition with
          | none => []
          | some value => [("condition", value.toJson)]) ++ [("body", .object body.entries)])
termination_by value => sizeOf value

end

def ArrayInitializer.toJson (initializer : ArrayInitializer) : Json := .object initializer.entries

def Query.toJson (query : Query) : Json := .object query.entries

def AttributeSection.toJson (attributes : AttributeSection) : Json := .object attributes.entries

def VariableDeclaration.toJson (declaration : VariableDeclaration) : Json :=
  .object declaration.entries

def Block.toJson (block : Block) : Json := .object block.entries

def Pattern.toJson (pattern : Pattern) : Json := .object pattern.entries

def Comment.toJson (comment : Comment) : Json := .object comment.entries

def Directive.toJson (directive : Directive) : Json := .object directive.entries

end CSharpLayout
