import CSharpLayout.Proofs.Fields

/-! The fields that trees are written with. Every record has a list of fields, and every value of a tagged
family has a tag besides, so that reading can be compared with writing field by field. -/

namespace CSharpLayout

open Json

structure Form where
  tag : String
  fields : Fields

def Form.toJson (key : String) (form : Form) : Json := tagged key form.tag form.fields.entries

section Words

def Identifier.fields (identifier : Identifier) : Fields :=
  [("name", some (.string identifier.name)), ("verbatim", flagged identifier.verbatim),
    ("class", identifier.tokenClass.map spelled)]

theorem Identifier.toJson_eq (identifier : Identifier) :
    identifier.toJson = .object identifier.fields.entries := by
  rw [toJson, entryOfFlag_eq]
  simp [fields, Fields.entries, entryOf]

def ArraySpecifier.fields (specifier : ArraySpecifier) : Fields :=
  [("dimensions", some (.integer specifier.dimensions.toNat))]

def Comment.fields (comment : Comment) : Fields :=
  [("comment_type", some (spelled comment.kind)), ("content", some (.string comment.content))]

def Directive.fields (directive : Directive) : Fields :=
  [("directive_type", some (spelled directive.kind)), ("argument", directive.argument.map .string)]

theorem Directive.entries_eq (directive : Directive) : directive.entries = directive.fields.entries := by
  simp [entries, fields, Fields.entries, entryOf]

end Words

section Records

def ArrayInitializer.fields (initializer : ArrayInitializer) : Fields :=
  [("elements", some (.array (initializer.elements.map Expression.toJson))),
    ("explicit_braces", some (.bool initializer.explicitBraces)),
    ("trailing_comma", some (.bool initializer.trailingComma))]

theorem ArrayInitializer.entries_eq (initializer : ArrayInitializer) :
    initializer.entries = initializer.fields.entries := by
  cases initializer
  rw [ArrayInitializer.entries]
  rfl

def Query.fields (query : Query) : Fields :=
  [("clauses", some (.array (query.clauses.map QueryClause.toJson)))]

theorem Query.entries_eq (query : Query) : query.entries = query.fields.entries := by
  cases query
  rw [Query.entries]
  rfl

def QueryOrdering.fields (ordering : QueryOrdering) : Fields :=
  [("expression", some ordering.expression.toJson), ("direction", some (spelled ordering.direction))]

theorem QueryOrdering.toJson_eq (ordering : QueryOrdering) :
    ordering.toJson = .object ordering.fields.entries := by
  cases ordering
  rw [QueryOrdering.toJson]
  rfl

def Attribute.fields (use : Attribute) : Fields :=
  [("attribute_type", some use.attributeType.toJson),
    ("arguments", listed (use.arguments.map Expression.toJson)),
    ("explicit_parentheses", some (.bool use.explicitParentheses))]

theorem Attribute.toJson_eq (use : Attribute) : use.toJson = .object use.fields.entries := by
  cases use
  rw [Attribute.toJson, entryOfList_eq]
  simp [fields, Fields.entries, entryOf]

def AttributeSection.fields (attributes : AttributeSection) : Fields :=
  [("target", attributes.target.map .string),
    ("attributes", some (.array (attributes.attributes.map Attribute.toJson)))]

theorem AttributeSection.entries_eq (attributes : AttributeSection) :
    attributes.entries = attributes.fields.entries := by
  cases attributes
  rw [AttributeSection.entries]
  rfl

def Parameter.fields (parameter : Parameter) : Fields :=
  [("attributes", listed (parameter.attributes.map AttributeSection.toJson)),
    ("modifier", some (spelled parameter.modifier)),
    ("parameter_type", parameter.parameterType.map TypeRef.toJson),
    ("name", parameter.name.map Identifier.toJson),
    ("default_expression", parameter.defaultExpression.map Expression.toJson)]

theorem Parameter.toJson_eq (parameter : Parameter) :
    parameter.toJson = .object parameter.fields.entries := by
  obtain ⟨attributes, modifier, parameterType, name, defaultExpression⟩ := parameter
  have sections :
      (attributes.map fun found => Json.object found.entries) = attributes.map AttributeSection.toJson := rfl
  cases parameterType <;> cases defaultExpression <;>
    simp [Parameter.toJson, entryOfList_eq, sections, fields, Fields.entries, entryOf]

def VariableInitializer.fields (declarator : VariableInitializer) : Fields :=
  [("name", some declarator.name.toJson), ("initializer", declarator.initializer.map Expression.toJson)]

theorem VariableInitializer.toJson_eq (declarator : VariableInitializer) :
    declarator.toJson = .object declarator.fields.entries := by
  obtain ⟨name, initializer⟩ := declarator
  cases initializer <;> rw [VariableInitializer.toJson] <;> rfl

def VariableDeclaration.fields (declaration : VariableDeclaration) : Fields :=
  [("modifiers", listed (declaration.modifiers.map spelled)),
    ("variable_type", some declaration.variableType.toJson),
    ("variables", some (.array (declaration.declarators.map VariableInitializer.toJson)))]

theorem VariableDeclaration.entries_eq (declaration : VariableDeclaration) :
    declaration.entries = declaration.fields.entries := by
  cases declaration
  rw [VariableDeclaration.entries, entryOfList_eq]
  rfl

def Block.fields (block : Block) : Fields :=
  [("statements", some (.array (block.statements.map Statement.toJson)))]

theorem Block.entries_eq (block : Block) : block.entries = block.fields.entries := by
  cases block
  rw [Block.entries]
  rfl

def SwitchSection.fields (switchSection : SwitchSection) : Fields :=
  [("case_labels", some (.array (switchSection.labels.map CaseLabel.toJson))),
    ("statements", some (.array (switchSection.statements.map Statement.toJson)))]

theorem SwitchSection.toJson_eq (switchSection : SwitchSection) :
    switchSection.toJson = .object switchSection.fields.entries := by
  cases switchSection
  rw [SwitchSection.toJson]
  rfl

def CaseLabel.fields (label : CaseLabel) : Fields := [("expression", label.expression.map Expression.toJson)]

theorem CaseLabel.toJson_eq (label : CaseLabel) : label.toJson = .object label.fields.entries := by
  obtain ⟨expression⟩ := label
  cases expression <;> rw [CaseLabel.toJson] <;> rfl

def CatchClause.fields (clause : CatchClause) : Fields :=
  [("catch_type", clause.catchType.map TypeRef.toJson),
    ("variable_name", clause.variableName.map Identifier.toJson),
    ("condition", clause.condition.map Expression.toJson), ("body", some clause.body.toJson)]

theorem CatchClause.toJson_eq (clause : CatchClause) : clause.toJson = .object clause.fields.entries := by
  obtain ⟨catchType, variableName, condition, body⟩ := clause
  cases catchType <;> cases condition <;>
    simp [CatchClause.toJson, fields, Fields.entries, entryOf, Block.toJson]

end Records

section Families

def Pattern.form : Pattern → Form
  | .any groupName => ⟨"Any", [("group_name", groupName.map .string)]⟩
  | .backreference groupName => ⟨"Backreference", [("group_name", some (.string groupName))]⟩
  | .identifierBackreference groupName =>
      ⟨"IdentifierBackreference", [("group_name", some (.string groupName))]⟩
  | .choice alternatives =>
      ⟨"Choice", [("alternatives", some (.array (alternatives.map PatternItem.toJson)))]⟩
  | .named groupName child => ⟨"Named", [("group_name", groupName.map .string), ("child", some child.toJson)]⟩
  | .repeated min max child =>
      ⟨"Repeat", [("min", some (.integer min.toNat)), ("max", max.map fun bound => .integer bound.toNat),
        ("child", some child.toJson)]⟩
  | .optional child => ⟨"Optional", [("child", some child.toJson)]⟩

def Pattern.fields (pattern : Pattern) : Fields :=
  ("pattern", some (.string pattern.form.tag)) :: pattern.form.fields

theorem Pattern.entries_eq (pattern : Pattern) : pattern.entries = pattern.fields.entries := by
  cases pattern <;> rw [Pattern.entries] <;> simp [fields, form, Fields.entries, entryOf]

theorem Pattern.toJson_eq (pattern : Pattern) : pattern.toJson = pattern.form.toJson "pattern" := by
  rw [Pattern.toJson, Pattern.entries_eq]
  rfl

theorem Pattern.tag_known (pattern : Pattern) : Pattern.tags.contains pattern.form.tag = true := by
  cases pattern <;> rfl

theorem Pattern.key_free (pattern : Pattern) :
    (pattern.form.fields.map Prod.fst).contains "pattern" = false := by
  cases pattern <;> rfl

theorem Pattern.kind_free (pattern : Pattern) : (pattern.fields.map Prod.fst).contains "kind" = false := by
  cases pattern <;> rfl

def TypeRef.form : TypeRef → Form
  | .primitive keyword => ⟨"Primitive", [("keyword", some (.string keyword))]⟩
  | .simple identifier typeArguments =>
      ⟨"Simple", [("identifier", some identifier.toJson),
        ("type_arguments", listed (typeArguments.map TypeRef.toJson))]⟩
  | .member target isDoubleColon memberName typeArguments =>
      ⟨"Member", [("target", some target.toJson), ("is_double_colon", some (.bool isDoubleColon)),
        ("member_name", some memberName.toJson),
        ("type_arguments", listed (typeArguments.map TypeRef.toJson))]⟩
  | .composed baseType nullable pointerRank arraySpecifiers =>
      ⟨"Composed", [("base_type", some baseType.toJson), ("has_nullable_specifier", some (.bool nullable)),
        ("pointer_rank", some (.integer pointerRank.toNat)),
        ("array_specifiers", listed (arraySpecifiers.map ArraySpecifier.toJson))]⟩
  | .pattern placeholder => ⟨"Pattern", placeholder.fields⟩

theorem TypeRef.toJson_eq (type : TypeRef) : type.toJson = type.form.toJson "kind" := by
  cases type <;> rw [TypeRef.toJson] <;>
    simp [form, Form.toJson, Fields.entries, entryOf, entryOfList_eq, Pattern.entries_eq]

theorem TypeRef.tag_known (type : TypeRef) : TypeRef.tags.contains type.form.tag = true := by
  cases type <;> rfl

theorem TypeRef.key_free (type : TypeRef) : (type.form.fields.map Prod.fst).contains "kind" = false := by
  cases type with
  | pattern found => exact found.kind_free
  | _ => rfl

def Expression.form : Expression → Form
  | .anonymousMethod isAsync hasParameterList parameters body =>
      ⟨"AnonymousMethod",
        [("is_async", some (.bool isAsync)), ("has_parameter_list", some (.bool hasParameterList)),
          ("parameters", listed (parameters.map Parameter.toJson)), ("body", some body.toJson)]⟩
  | .undocumented operation arguments =>
      ⟨"Undocumented", [("operation", some (spelled operation)),
        ("arguments", listed (arguments.map Expression.toJson))]⟩
  | .arrayCreate elementType arguments additionalSpecifiers initializer =>
      ⟨"ArrayCreate", [("element_type", some elementType.toJson),
        ("arguments", listed (arguments.map Expression.toJson)),
        ("additional_specifiers", listed (additionalSpecifiers.map ArraySpecifier.toJson)),
        ("initializer", initializer.map ArrayInitializer.toJson)]⟩
  | .arrayInitializer initializer => ⟨"ArrayInitializer", initializer.fields⟩
  | .asType expression targetType =>
      ⟨"As", [("expression", some expression.toJson), ("target_type", some targetType.toJson)]⟩
  | .assignment left operator right =>
      ⟨"Assignment", [("left", some left.toJson), ("operator", some (spelled operator)),
        ("right", some right.toJson)]⟩
  | .baseReference => ⟨"BaseReference", []⟩
  | .binary left operator right =>
      ⟨"Binary", [("left", some left.toJson), ("operator", some (spelled operator)),
        ("right", some right.toJson)]⟩
  | .cast targetType expression =>
      ⟨"Cast", [("target_type", some targetType.toJson), ("expression", some expression.toJson)]⟩
  | .checked expression => ⟨"Checked", [("expression", some expression.toJson)]⟩
  | .conditional condition whenTrue whenFalse =>
      ⟨"Conditional", [("condition", some condition.toJson), ("true_expression", some whenTrue.toJson),
        ("false_expression", some whenFalse.toJson)]⟩
  | .defaultValue targetType => ⟨"DefaultValue", [("target_type", some targetType.toJson)]⟩
  | .direction passing expression =>
      ⟨"Direction", [("direction", some (spelled passing)), ("expression", some expression.toJson)]⟩
  | .identifier name typeArguments =>
      ⟨"Identifier", [("identifier", some name.toJson),
        ("type_arguments", listed (typeArguments.map TypeRef.toJson))]⟩
  | .indexer target arguments =>
      ⟨"Indexer", [("target", some target.toJson),
        ("arguments", some (.array (arguments.map Expression.toJson)))]⟩
  | .invocation target arguments =>
      ⟨"Invocation",
        [("target", some target.toJson), ("arguments", some (.array (arguments.map Expression.toJson)))]⟩
  | .isType expression targetType =>
      ⟨"Is", [("expression", some expression.toJson), ("target_type", some targetType.toJson)]⟩
  | .lambda isAsync parameters body =>
      ⟨"Lambda", [("is_async", some (.bool isAsync)),
        ("parameters", some (.array (parameters.map Parameter.toJson))), ("body", some body.toJson)]⟩
  | .memberReference target memberName typeArguments =>
      ⟨"MemberReference", [("target", some target.toJson), ("member_name", some memberName.toJson),
        ("type_arguments", listed (typeArguments.map TypeRef.toJson))]⟩
  | .namedArgument name expression =>
      ⟨"NamedArgument", [("name", some name.toJson), ("expression", some expression.toJson)]⟩
  | .named name expression => ⟨"Named", [("name", some name.toJson), ("expression", some expression.toJson)]⟩
  | .nullReference => ⟨"NullReference", []⟩
  | .objectCreate createdType arguments explicitParentheses initializer =>
      ⟨"ObjectCreate", [("created_type", some createdType.toJson),
        ("arguments", listed (arguments.map Expression.toJson)),
        ("explicit_parentheses", some (.bool explicitParentheses)),
        ("initializer", initializer.map ArrayInitializer.toJson)]⟩
  | .anonymousTypeCreate initializers =>
      ⟨"AnonymousTypeCreate", [("initializers", some (.array (initializers.map Expression.toJson)))]⟩
  | .parenthesized expression => ⟨"Parenthesized", [("expression", some expression.toJson)]⟩
  | .pointerReference target memberName typeArguments =>
      ⟨"PointerReference", [("target", some target.toJson), ("member_name", some memberName.toJson),
        ("type_arguments", listed (typeArguments.map TypeRef.toJson))]⟩
  | .literal value raw => ⟨"Primitive", [("value", some value.toJson), ("raw", raw.map .string)]⟩
  | .sizeOf targetType => ⟨"SizeOf", [("target_type", some targetType.toJson)]⟩
  | .stackAlloc elementType count =>
      ⟨"StackAlloc", [("element_type", some elementType.toJson), ("count_expression", some count.toJson)]⟩
  | .thisReference => ⟨"ThisReference", []⟩
  | .typeOf targetType => ⟨"TypeOf", [("target_type", some targetType.toJson)]⟩
  | .typeReference targetType => ⟨"TypeReference", [("target_type", some targetType.toJson)]⟩
  | .unary operator expression =>
      ⟨"Unary", [("operator", some (spelled operator)), ("expression", some expression.toJson)]⟩
  | .unchecked expression => ⟨"Unchecked", [("expression", some expression.toJson)]⟩
  | .query clauses => ⟨"Query", clauses.fields⟩
  | .pattern placeholder => ⟨"Pattern", placeholder.fields⟩

theorem Expression.toJson_eq (expression : Expression) :
    expression.toJson = expression.form.toJson "kind" := by
  cases expression
  case arrayCreate _ _ _ initializer =>
    cases initializer <;>
      simp [Expression.toJson, form, Form.toJson, Fields.entries, entryOf, entryOfList_eq,
        ArrayInitializer.toJson]
  case objectCreate _ _ _ initializer =>
    cases initializer <;>
      simp [Expression.toJson, form, Form.toJson, Fields.entries, entryOf, entryOfList_eq,
        ArrayInitializer.toJson]
  all_goals
    rw [Expression.toJson]
    simp [form, Form.toJson, Fields.entries, entryOf, entryOfList_eq, Pattern.entries_eq, Query.entries_eq,
      ArrayInitializer.entries_eq, Block.toJson]

theorem Expression.tag_known (expression : Expression) :
    Expression.tags.contains expression.form.tag = true := by
  cases expression <;> simp [form, tags]

theorem Expression.key_free (expression : Expression) :
    (expression.form.fields.map Prod.fst).contains "kind" = false := by
  cases expression with
  | pattern found => exact found.kind_free
  | _ => rfl

def QueryClause.form : QueryClause → Form
  | .continuation preceding identifier =>
      ⟨"Continuation", [("preceding_query", some preceding.toJson), ("identifier", some identifier.toJson)]⟩
  | .fromIn variableType identifier expression =>
      ⟨"From", [("variable_type", variableType.map TypeRef.toJson), ("identifier", some identifier.toJson),
        ("expression", some expression.toJson)]⟩
  | .letBe identifier expression =>
      ⟨"Let", [("identifier", some identifier.toJson), ("expression", some expression.toJson)]⟩
  | .whereTrue condition => ⟨"Where", [("condition", some condition.toJson)]⟩
  | .join variableType joinIdentifier inExpression onExpression equalsExpression intoIdentifier =>
      ⟨"Join", [("variable_type", variableType.map TypeRef.toJson),
        ("join_identifier", some joinIdentifier.toJson), ("in_expression", some inExpression.toJson),
        ("on_expression", some onExpression.toJson), ("equals_expression", some equalsExpression.toJson),
        ("into_identifier", intoIdentifier.map Identifier.toJson)]⟩
  | .orderBy orderings => ⟨"OrderBy", [("orderings", some (.array (orderings.map QueryOrdering.toJson)))]⟩
  | .select expression => ⟨"Select", [("expression", some expression.toJson)]⟩
  | .groupBy projection key => ⟨"Group", [("projection", some projection.toJson), ("key", some key.toJson)]⟩

theorem QueryClause.toJson_eq (clause : QueryClause) : clause.toJson = clause.form.toJson "clause" := by
  cases clause
  case fromIn variableType _ _ =>
    cases variableType <;> rw [QueryClause.toJson] <;> rfl
  case join variableType _ _ _ _ _ =>
    cases variableType <;> simp [QueryClause.toJson, form, Form.toJson, Fields.entries, entryOf]
  all_goals
    rw [QueryClause.toJson]
    rfl

theorem QueryClause.tag_known (clause : QueryClause) : QueryClause.tags.contains clause.form.tag = true := by
  cases clause <;> rfl

theorem QueryClause.key_free (clause : QueryClause) :
    (clause.form.fields.map Prod.fst).contains "clause" = false := by
  cases clause <;> rfl

def Statement.form : Statement → Form
  | .block found => ⟨"Block", found.fields⟩
  | .breaks => ⟨"Break", []⟩
  | .checked body => ⟨"Checked", [("body", some body.toJson)]⟩
  | .continues => ⟨"Continue", []⟩
  | .doWhile body condition =>
      ⟨"DoWhile", [("embedded_statement", some body.toJson), ("condition", some condition.toJson)]⟩
  | .empty => ⟨"Empty", []⟩
  | .expression operand => ⟨"Expression", [("expression", some operand.toJson)]⟩
  | .fixed variableType declarators body =>
      ⟨"Fixed", [("variable_type", some variableType.toJson),
        ("variables", some (.array (declarators.map VariableInitializer.toJson))),
        ("embedded_statement", some body.toJson)]⟩
  | .foreach variableType variableName inExpression body =>
      ⟨"Foreach", [("variable_type", some variableType.toJson), ("variable_name", some variableName.toJson),
        ("in_expression", some inExpression.toJson), ("embedded_statement", some body.toJson)]⟩
  | .forLoop initializers condition iterators body =>
      ⟨"For", [("initializers", some (.array (initializers.map Statement.toJson))),
        ("condition", condition.map Expression.toJson),
        ("iterators", some (.array (iterators.map Statement.toJson))),
        ("embedded_statement", some body.toJson)]⟩
  | .goto target => ⟨"Goto", [("label", some target.toJson)]⟩
  | .gotoCase target => ⟨"GotoCase", [("label_expression", some target.toJson)]⟩
  | .gotoDefault => ⟨"GotoDefault", []⟩
  | .ifElse condition whenTrue whenFalse =>
      ⟨"IfElse", [("condition", some condition.toJson), ("true_statement", some whenTrue.toJson),
        ("false_statement", whenFalse.map Statement.toJson)]⟩
  | .label target => ⟨"Label", [("label", some target.toJson)]⟩
  | .lock operand body =>
      ⟨"Lock", [("expression", some operand.toJson), ("embedded_statement", some body.toJson)]⟩
  | .returns operand => ⟨"Return", [("expression", operand.map Expression.toJson)]⟩
  | .switch operand sections =>
      ⟨"Switch", [("expression", some operand.toJson),
        ("sections", some (.array (sections.map SwitchSection.toJson)))]⟩
  | .throws operand => ⟨"Throw", [("expression", operand.map Expression.toJson)]⟩
  | .tryCatch tryBlock catchClauses finallyBlock =>
      ⟨"TryCatch", [("try_block", some tryBlock.toJson),
        ("catch_clauses", some (.array (catchClauses.map CatchClause.toJson))),
        ("finally_block", finallyBlock.map Block.toJson)]⟩
  | .unchecked body => ⟨"Unchecked", [("body", some body.toJson)]⟩
  | .unsafeBlock body => ⟨"Unsafe", [("body", some body.toJson)]⟩
  | .usingResource resource body =>
      ⟨"Using", [("resource", some resource.toJson), ("embedded_statement", some body.toJson)]⟩
  | .localVariables declaration => ⟨"VariableDeclaration", declaration.fields⟩
  | .whileLoop condition body =>
      ⟨"While", [("condition", some condition.toJson), ("embedded_statement", some body.toJson)]⟩
  | .yieldBreak => ⟨"YieldBreak", []⟩
  | .yieldReturn operand => ⟨"YieldReturn", [("expression", some operand.toJson)]⟩
  | .comment found => ⟨"Comment", found.fields⟩
  | .directive found => ⟨"Directive", found.fields⟩
  | .pattern placeholder => ⟨"Pattern", placeholder.fields⟩

theorem Statement.toJson_eq (statement : Statement) : statement.toJson = statement.form.toJson "kind" := by
  cases statement
  case block => rw [Statement.toJson, Block.entries_eq]; rfl
  case localVariables => rw [Statement.toJson, VariableDeclaration.entries_eq]; rfl
  case directive => rw [Statement.toJson, Directive.entries_eq]; rfl
  case pattern => rw [Statement.toJson, Pattern.entries_eq]; rfl
  case forLoop _ condition _ _ => cases condition <;> rw [Statement.toJson] <;> rfl
  case ifElse _ _ whenFalse => cases whenFalse <;> rw [Statement.toJson] <;> rfl
  case returns expression => cases expression <;> rw [Statement.toJson] <;> rfl
  case throws expression => cases expression <;> rw [Statement.toJson] <;> rfl
  case tryCatch _ _ finallyBlock => cases finallyBlock <;> rw [Statement.toJson] <;> rfl
  all_goals
    rw [Statement.toJson]
    rfl

theorem Statement.tag_known (statement : Statement) : Statement.tags.contains statement.form.tag = true := by
  cases statement <;> simp [form, tags]

theorem Statement.key_free (statement : Statement) :
    (statement.form.fields.map Prod.fst).contains "kind" = false := by
  cases statement with
  | pattern found => exact found.kind_free
  | _ => rfl

end Families

section Declarations

def UsingDeclaration.fields (declaration : UsingDeclaration) : Fields :=
  [("import", some declaration.target.toJson)]

def UsingAlias.fields (declaration : UsingAlias) : Fields :=
  [("alias", some declaration.name.toJson), ("import", some declaration.target.toJson)]

def ExternAlias.fields (declaration : ExternAlias) : Fields := [("name", some declaration.name.toJson)]

def TypeParameter.fields (parameter : TypeParameter) : Fields :=
  [("attributes", listed (parameter.attributes.map AttributeSection.toJson)),
    ("variance", some (spelled parameter.variance)), ("name", some parameter.name.toJson)]

theorem TypeParameter.toJson_eq (parameter : TypeParameter) :
    parameter.toJson = .object parameter.fields.entries := by
  rw [toJson, entryOfList_eq]
  rfl

def Constraint.fields (constraint : Constraint) : Fields :=
  [("type_parameter", some constraint.typeParameter.toJson),
    ("base_types", some (.array (constraint.baseTypes.map TypeRef.toJson)))]

def openingFields (attributes : List AttributeSection) (modifiers : List Modifier) (rest : Fields) : Fields :=
  ("attributes", listed (attributes.map AttributeSection.toJson)) ::
    ("modifiers", listed (modifiers.map spelled)) :: rest

theorem declarationEntries_append (attributes : List AttributeSection) (modifiers : List Modifier)
    (rest : Fields) :
    declarationEntries attributes modifiers ++ rest.entries =
      (openingFields attributes modifiers rest).entries := by
  rw [declarationEntries, entryOfList_eq, entryOfList_eq, List.append_assoc]
  rfl

def DelegateDeclaration.fields (declaration : DelegateDeclaration) : Fields :=
  openingFields declaration.attributes declaration.modifiers
    [("return_type", some declaration.returnType.toJson), ("name", some declaration.name.toJson),
      ("type_parameters", listed (declaration.typeParameters.map TypeParameter.toJson)),
      ("parameters", some (.array (declaration.parameters.map Parameter.toJson))),
      ("constraints", listed (declaration.constraints.map Constraint.toJson))]

theorem DelegateDeclaration.entries_eq (declaration : DelegateDeclaration) :
    declaration.entries = declaration.fields.entries := by
  rw [fields, ← declarationEntries_append]
  simp [entries, Fields.entries, entryOf, entryOfList_eq]

def FieldDeclaration.fields (declaration : FieldDeclaration) : Fields :=
  openingFields declaration.attributes declaration.modifiers
    [("return_type", some declaration.returnType.toJson),
      ("variables", some (.array (declaration.declarators.map VariableInitializer.toJson)))]

theorem FieldDeclaration.entries_eq (declaration : FieldDeclaration) :
    declaration.entries = declaration.fields.entries := by
  rw [fields, ← declarationEntries_append]
  rfl

def FixedVariable.fields (buffer : FixedVariable) : Fields :=
  [("name", some buffer.name.toJson), ("count_expression", buffer.count.map Expression.toJson)]

theorem FixedVariable.toJson_eq (buffer : FixedVariable) : buffer.toJson = .object buffer.fields.entries := by
  simp [toJson, fields, Fields.entries, entryOf]

def FixedFieldDeclaration.fields (declaration : FixedFieldDeclaration) : Fields :=
  openingFields declaration.attributes declaration.modifiers
    [("return_type", some declaration.returnType.toJson),
      ("variables", some (.array (declaration.declarators.map FixedVariable.toJson)))]

theorem FixedFieldDeclaration.entries_eq (declaration : FixedFieldDeclaration) :
    declaration.entries = declaration.fields.entries := by
  rw [fields, ← declarationEntries_append]
  rfl

def MethodDeclaration.fields (declaration : MethodDeclaration) : Fields :=
  openingFields declaration.attributes declaration.modifiers
    [("return_type", some declaration.returnType.toJson),
      ("private_implementation_type", declaration.explicitInterface.map TypeRef.toJson),
      ("name", some declaration.name.toJson),
      ("type_parameters", listed (declaration.typeParameters.map TypeParameter.toJson)),
      ("parameters", some (.array (declaration.parameters.map Parameter.toJson))),
      ("constraints", listed (declaration.constraints.map Constraint.toJson)),
      ("body", declaration.body.map Block.toJson)]

theorem MethodDeclaration.entries_eq (declaration : MethodDeclaration) :
    declaration.entries = declaration.fields.entries := by
  rw [fields, ← declarationEntries_append]
  simp [entries, Fields.entries, entryOf, entryOfList_eq]

def ConstructorInitializer.fields (initializer : ConstructorInitializer) : Fields :=
  [("initializer_type", some (spelled initializer.target)),
    ("arguments", some (.array (initializer.arguments.map Expression.toJson)))]

def ConstructorDeclaration.fields (declaration : ConstructorDeclaration) : Fields :=
  openingFields declaration.attributes declaration.modifiers
    [("name", some declaration.name.toJson),
      ("parameters", some (.array (declaration.parameters.map Parameter.toJson))),
      ("initializer", declaration.initializer.map ConstructorInitializer.toJson),
      ("body", declaration.body.map Block.toJson)]

theorem ConstructorDeclaration.entries_eq (declaration : ConstructorDeclaration) :
    declaration.entries = declaration.fields.entries := by
  rw [fields, ← declarationEntries_append]
  simp [entries, Fields.entries, entryOf]

def DestructorDeclaration.fields (declaration : DestructorDeclaration) : Fields :=
  openingFields declaration.attributes declaration.modifiers
    [("name", some declaration.name.toJson), ("body", declaration.body.map Block.toJson)]

theorem DestructorDeclaration.entries_eq (declaration : DestructorDeclaration) :
    declaration.entries = declaration.fields.entries := by
  rw [fields, ← declarationEntries_append]
  simp [entries, Fields.entries, entryOf]

def Accessor.fields (accessor : Accessor) : Fields :=
  openingFields accessor.attributes accessor.modifiers
    [("kind", some (spelled accessor.kind)), ("body", accessor.body.map Block.toJson)]

theorem Accessor.toJson_eq (accessor : Accessor) : accessor.toJson = .object accessor.fields.entries := by
  rw [fields, ← declarationEntries_append]
  simp [toJson, Fields.entries, entryOf]

def PropertyDeclaration.fields (declaration : PropertyDeclaration) : Fields :=
  openingFields declaration.attributes declaration.modifiers
    [("return_type", some declaration.returnType.toJson),
      ("private_implementation_type", declaration.explicitInterface.map TypeRef.toJson),
      ("name", some declaration.name.toJson),
      ("accessors", some (.array (declaration.accessors.map Accessor.toJson)))]

theorem PropertyDeclaration.entries_eq (declaration : PropertyDeclaration) :
    declaration.entries = declaration.fields.entries := by
  rw [fields, ← declarationEntries_append]
  simp [entries, Fields.entries, entryOf]

def IndexerDeclaration.fields (declaration : IndexerDeclaration) : Fields :=
  openingFields declaration.attributes declaration.modifiers
    [("return_type", some declaration.returnType.toJson),
      ("private_implementation_type", declaration.explicitInterface.map TypeRef.toJson),
      ("parameters", some (.array (declaration.parameters.map Parameter.toJson))),
      ("accessors", some (.array (declaration.accessors.map Accessor.toJson)))]

theorem IndexerDeclaration.entries_eq (declaration : IndexerDeclaration) :
    declaration.entries = declaration.fields.entries := by
  rw [fields, ← declarationEntries_append]
  simp [entries, Fields.entries, entryOf]

def EventDeclaration.fields (declaration : EventDeclaration) : Fields :=
  openingFields declaration.attributes declaration.modifiers
    [("return_type", some declaration.returnType.toJson),
      ("variables", some (.array (declaration.declarators.map VariableInitializer.toJson)))]

theorem EventDeclaration.entries_eq (declaration : EventDeclaration) :
    declaration.entries = declaration.fields.entries := by
  rw [fields, ← declarationEntries_append]
  rfl

def CustomEventDeclaration.fields (declaration : CustomEventDeclaration) : Fields :=
  openingFields declaration.attributes declaration.modifiers
    [("return_type", some declaration.returnType.toJson),
      ("private_implementation_type", declaration.explicitInterface.map TypeRef.toJson),
      ("name", some declaration.name.toJson),
      ("accessors", some (.array (declaration.accessors.map Accessor.toJson)))]

theorem CustomEventDeclaration.entries_eq (declaration : CustomEventDeclaration) :
    declaration.entries = declaration.fields.entries := by
  rw [fields, ← declarationEntries_append]
  simp [entries, Fields.entries, entryOf]

def OperatorDeclaration.fields (declaration : OperatorDeclaration) : Fields :=
  openingFields declaration.attributes declaration.modifiers
    [("operator", some (spelled declaration.operator)), ("return_type", some declaration.returnType.toJson),
      ("parameters", some (.array (declaration.parameters.map Parameter.toJson))),
      ("body", declaration.body.map Block.toJson)]

theorem OperatorDeclaration.entries_eq (declaration : OperatorDeclaration) :
    declaration.entries = declaration.fields.entries := by
  rw [fields, ← declarationEntries_append]
  simp [entries, Fields.entries, entryOf]

def EnumMember.fields (enumMember : EnumMember) : Fields :=
  openingFields enumMember.attributes enumMember.modifiers
    [("name", some enumMember.name.toJson), ("initializer", enumMember.initializer.map Expression.toJson)]

theorem EnumMember.entries_eq (enumMember : EnumMember) : enumMember.entries = enumMember.fields.entries := by
  rw [fields, ← declarationEntries_append]
  simp [entries, Fields.entries, entryOf]

def DocumentationReference.fields (reference : DocumentationReference) : Fields :=
  [("symbol_kind", some (spelled reference.symbolKind)),
    ("declaring_type", reference.declaringType.map TypeRef.toJson),
    ("member_name", reference.memberName.map Identifier.toJson), ("operator", reference.operator.map spelled),
    ("conversion_return_type", reference.conversionReturnType.map TypeRef.toJson),
    ("type_arguments", listed (reference.typeArguments.map TypeRef.toJson)),
    ("has_parameter_list", some (.bool reference.hasParameterList)),
    ("parameters", listed (reference.parameters.map Parameter.toJson))]

theorem DocumentationReference.toJson_eq (reference : DocumentationReference) :
    reference.toJson = .object reference.fields.entries := by
  simp [toJson, fields, Fields.entries, entryOf, entryOfList_eq]

def TypeDeclaration.fields (declaration : TypeDeclaration) : Fields :=
  openingFields declaration.attributes declaration.modifiers
    [("class_type", some (spelled declaration.kind)), ("name", some declaration.name.toJson),
      ("type_parameters", listed (declaration.typeParameters.map TypeParameter.toJson)),
      ("base_types", listed (declaration.baseTypes.map TypeRef.toJson)),
      ("constraints", listed (declaration.constraints.map Constraint.toJson)),
      ("members", some (.array (declaration.members.map TypeMember.toJson))),
      ("trailing_comma", some (.bool declaration.trailingComma)),
      ("trailing_semicolon", some (.bool declaration.trailingSemicolon))]

theorem TypeDeclaration.entries_eq (declaration : TypeDeclaration) :
    declaration.entries = declaration.fields.entries := by
  cases declaration
  rw [fields, ← declarationEntries_append, TypeDeclaration.entries]
  simp [Fields.entries, entryOf, entryOfList_eq]

def TypeMember.form : TypeMember → Form
  | .field declaration => ⟨"Field", declaration.fields⟩
  | .fixedField declaration => ⟨"FixedField", declaration.fields⟩
  | .method declaration => ⟨"Method", declaration.fields⟩
  | .constructor declaration => ⟨"Constructor", declaration.fields⟩
  | .destructor declaration => ⟨"Destructor", declaration.fields⟩
  | .property declaration => ⟨"Property", declaration.fields⟩
  | .indexer declaration => ⟨"Indexer", declaration.fields⟩
  | .event declaration => ⟨"Event", declaration.fields⟩
  | .customEvent declaration => ⟨"CustomEvent", declaration.fields⟩
  | .operator declaration => ⟨"Operator", declaration.fields⟩
  | .enumMember declaration => ⟨"EnumMember", declaration.fields⟩
  | .type declaration => ⟨"Type", declaration.fields⟩
  | .delegate declaration => ⟨"Delegate", declaration.fields⟩
  | .comment found => ⟨"Comment", found.fields⟩
  | .directive found => ⟨"Directive", found.fields⟩

theorem TypeMember.toJson_eq (typeMember : TypeMember) :
    typeMember.toJson = typeMember.form.toJson "kind" := by
  cases typeMember
  case field => rw [TypeMember.toJson, FieldDeclaration.entries_eq]; rfl
  case fixedField => rw [TypeMember.toJson, FixedFieldDeclaration.entries_eq]; rfl
  case method => rw [TypeMember.toJson, MethodDeclaration.entries_eq]; rfl
  case constructor => rw [TypeMember.toJson, ConstructorDeclaration.entries_eq]; rfl
  case destructor => rw [TypeMember.toJson, DestructorDeclaration.entries_eq]; rfl
  case property => rw [TypeMember.toJson, PropertyDeclaration.entries_eq]; rfl
  case indexer => rw [TypeMember.toJson, IndexerDeclaration.entries_eq]; rfl
  case event => rw [TypeMember.toJson, EventDeclaration.entries_eq]; rfl
  case customEvent => rw [TypeMember.toJson, CustomEventDeclaration.entries_eq]; rfl
  case operator => rw [TypeMember.toJson, OperatorDeclaration.entries_eq]; rfl
  case enumMember => rw [TypeMember.toJson, EnumMember.entries_eq]; rfl
  case type => rw [TypeMember.toJson, TypeDeclaration.entries_eq]; rfl
  case delegate => rw [TypeMember.toJson, DelegateDeclaration.entries_eq]; rfl
  case comment => rw [TypeMember.toJson]; rfl
  case directive => rw [TypeMember.toJson, Directive.entries_eq]; rfl

theorem TypeMember.tag_known (typeMember : TypeMember) :
    TypeMember.tags.contains typeMember.form.tag = true := by
  cases typeMember <;> simp [form, tags]

theorem TypeMember.key_free (typeMember : TypeMember) :
    (typeMember.form.fields.map Prod.fst).contains "kind" = false := by
  cases typeMember <;> rfl

def NamespaceDeclaration.fields (declaration : NamespaceDeclaration) : Fields :=
  [("name", some declaration.name.toJson),
    ("members", some (.array (declaration.members.map NamespaceMember.toJson))),
    ("trailing_semicolon", some (.bool declaration.trailingSemicolon))]

theorem NamespaceDeclaration.entries_eq (declaration : NamespaceDeclaration) :
    declaration.entries = declaration.fields.entries := by
  cases declaration
  rw [NamespaceDeclaration.entries]
  rfl

def NamespaceMember.form : NamespaceMember → Form
  | .namespaceDeclaration declaration => ⟨"Namespace", declaration.fields⟩
  | .usingDeclaration declaration => ⟨"Using", declaration.fields⟩
  | .usingAlias declaration => ⟨"UsingAlias", declaration.fields⟩
  | .externAlias declaration => ⟨"ExternAlias", declaration.fields⟩
  | .type declaration => ⟨"Type", declaration.fields⟩
  | .delegate declaration => ⟨"Delegate", declaration.fields⟩
  | .attributeSection attributes => ⟨"AttributeSection", attributes.fields⟩
  | .comment found => ⟨"Comment", found.fields⟩
  | .directive found => ⟨"Directive", found.fields⟩

theorem NamespaceMember.toJson_eq (topLevel : NamespaceMember) :
    topLevel.toJson = topLevel.form.toJson "kind" := by
  cases topLevel
  case namespaceDeclaration => rw [NamespaceMember.toJson, NamespaceDeclaration.entries_eq]; rfl
  case type => rw [NamespaceMember.toJson, TypeDeclaration.entries_eq]; rfl
  case delegate => rw [NamespaceMember.toJson, DelegateDeclaration.entries_eq]; rfl
  case attributeSection => rw [NamespaceMember.toJson, AttributeSection.entries_eq]; rfl
  case directive => rw [NamespaceMember.toJson, Directive.entries_eq]; rfl
  all_goals
    rw [NamespaceMember.toJson]
    rfl

theorem NamespaceMember.tag_known (topLevel : NamespaceMember) :
    NamespaceMember.tags.contains topLevel.form.tag = true := by
  cases topLevel <;> simp [form, tags]

theorem NamespaceMember.key_free (topLevel : NamespaceMember) :
    (topLevel.form.fields.map Prod.fst).contains "kind" = false := by
  cases topLevel <;> rfl

def SyntaxTree.fields (tree : SyntaxTree) : Fields :=
  [("members", some (.array (tree.members.map NamespaceMember.toJson)))]

end Declarations

end CSharpLayout
