import CSharpLayout.Node.Children

/-! Every child is smaller than its parent, so a tree can be walked by recursion on its size. A walk that
keeps the nodes it has still to visit on a stack meets them in the order of the recursion. -/

namespace CSharpLayout

namespace Node

def Below (size : Nat) (nodes : List Node) : Prop := ∀ node ∈ nodes, sizeOf node < size

theorem below_nil (size : Nat) : Below size [] := by
  intro node member
  cases member

theorem below_cons {size : Nat} {node : Node} {rest : List Node} (first : sizeOf node < size)
    (others : Below size rest) : Below size (node :: rest) := by
  intro found member
  rcases List.mem_cons.mp member with same | later
  · exact same ▸ first
  · exact others found later

theorem below_append {size : Nat} {left right : List Node} (first : Below size left)
    (second : Below size right) : Below size (left ++ right) := by
  intro found member
  rcases List.mem_append.mp member with inLeft | inRight
  · exact first found inLeft
  · exact second found inRight

theorem below_map {α : Type} [SizeOf α] {size : Nat} {values : List α} {view : α → Node}
    (bound : ∀ value, sizeOf (view value) ≤ 1 + sizeOf value) (fits : sizeOf values < size) :
    Below size (values.map view) := by
  intro found member
  rcases List.mem_map.mp member with ⟨value, inside, rfl⟩
  have smaller := List.sizeOf_lt_of_mem inside
  have viewed := bound value
  omega

theorem below_map_option {α : Type} [SizeOf α] {size : Nat} {value : Option α} {view : α → Node}
    (bound : ∀ value, sizeOf (view value) ≤ 1 + sizeOf value) (fits : sizeOf value < size) :
    Below size (value.toList.map view) := by
  cases value with
  | none => exact below_nil size
  | some found =>
      have viewed := bound found
      simp only [Option.some.sizeOf_spec] at fits
      exact below_cons (by omega) (below_nil size)

theorem sizeOf_ofType_le (type : TypeRef) : sizeOf (ofType type) ≤ 1 + sizeOf type := by
  cases type <;> simp [ofType]

theorem sizeOf_ofExpression_le (found : Expression) :
    sizeOf (ofExpression found) ≤ 1 + sizeOf found := by
  cases found <;> simp [ofExpression]

theorem sizeOf_ofStatement_le (found : Statement) :
    sizeOf (ofStatement found) ≤ 1 + sizeOf found := by
  cases found <;> simp [ofStatement]

theorem sizeOf_ofNamespaceMember_le (member : NamespaceMember) :
    sizeOf (ofNamespaceMember member) ≤ 1 + sizeOf member := by
  cases member <;> simp [ofNamespaceMember]

theorem sizeOf_ofTypeMember_le (member : TypeMember) :
    sizeOf (ofTypeMember member) ≤ 1 + sizeOf member := by
  cases member <;> simp [ofTypeMember]

theorem sizeOf_ofUsingResource_le (resource : UsingResource) :
    sizeOf (ofUsingResource resource) ≤ 1 + sizeOf resource := by
  cases resource with
  | declaration declaration => simp [ofUsingResource]
  | expression found =>
      have viewed := sizeOf_ofExpression_le found
      simp only [ofUsingResource, UsingResource.expression.sizeOf_spec]
      omega

theorem sizeOf_ofLambdaBody_le (body : LambdaBody) :
    sizeOf (ofLambdaBody body) ≤ 1 + sizeOf body := by
  cases body with
  | expression found =>
      have viewed := sizeOf_ofExpression_le found
      simp only [ofLambdaBody, LambdaBody.expression.sizeOf_spec]
      omega
  | block found => simp [ofLambdaBody]

theorem sizeOf_elements_lt (initializer : ArrayInitializer) :
    sizeOf initializer.elements < sizeOf initializer := by
  cases initializer
  simp only [ArrayInitializer.mk.sizeOf_spec]
  omega

theorem sizeOf_clauses_lt (found : Query) : sizeOf found.clauses < sizeOf found := by
  cases found
  simp only [Query.mk.sizeOf_spec]
  omega

theorem sizeOf_statements_lt (found : Block) : sizeOf found.statements < sizeOf found := by
  cases found
  simp only [Block.mk.sizeOf_spec]
  omega

theorem sizeOf_variables_lt (declaration : VariableDeclaration) :
    sizeOf declaration.variableType + sizeOf declaration.declarators < sizeOf declaration := by
  cases declaration
  simp only [VariableDeclaration.mk.sizeOf_spec]
  omega

theorem ofType_lt {size : Nat} {type : TypeRef} (fits : 1 + sizeOf type < size) :
    sizeOf (ofType type) < size := Nat.lt_of_le_of_lt (sizeOf_ofType_le type) fits

theorem ofExpression_lt {size : Nat} {found : Expression} (fits : 1 + sizeOf found < size) :
    sizeOf (ofExpression found) < size := Nat.lt_of_le_of_lt (sizeOf_ofExpression_le found) fits

theorem ofStatement_lt {size : Nat} {found : Statement} (fits : 1 + sizeOf found < size) :
    sizeOf (ofStatement found) < size := Nat.lt_of_le_of_lt (sizeOf_ofStatement_le found) fits

theorem ofUsingResource_lt {size : Nat} {resource : UsingResource}
    (fits : 1 + sizeOf resource < size) : sizeOf (ofUsingResource resource) < size :=
  Nat.lt_of_le_of_lt (sizeOf_ofUsingResource_le resource) fits

theorem ofLambdaBody_lt {size : Nat} {body : LambdaBody} (fits : 1 + sizeOf body < size) :
    sizeOf (ofLambdaBody body) < size := Nat.lt_of_le_of_lt (sizeOf_ofLambdaBody_le body) fits

theorem below_types {size : Nat} {values : List TypeRef} (fits : sizeOf values < size) :
    Below size (ofTypes values) := below_map sizeOf_ofType_le fits

theorem below_expressions {size : Nat} {values : List Expression} (fits : sizeOf values < size) :
    Below size (ofExpressions values) := below_map sizeOf_ofExpression_le fits

theorem below_statements {size : Nat} {values : List Statement} (fits : sizeOf values < size) :
    Below size (ofStatements values) := below_map sizeOf_ofStatement_le fits

theorem below_attributes {size : Nat} {values : List AttributeSection} (fits : sizeOf values < size) :
    Below size (ofAttributes values) := below_map (fun _ => Nat.le_refl _) fits

theorem below_parameters {size : Nat} {values : List Parameter} (fits : sizeOf values < size) :
    Below size (ofParameters values) := below_map (fun _ => Nat.le_refl _) fits

theorem below_typeParameters {size : Nat} {values : List TypeParameter} (fits : sizeOf values < size) :
    Below size (ofTypeParameters values) := below_map (fun _ => Nat.le_refl _) fits

theorem below_constraints {size : Nat} {values : List Constraint} (fits : sizeOf values < size) :
    Below size (ofConstraints values) := below_map (fun _ => Nat.le_refl _) fits

theorem below_specifiers {size : Nat} {values : List ArraySpecifier} (fits : sizeOf values < size) :
    Below size (ofSpecifiers values) := below_map (fun _ => Nat.le_refl _) fits

theorem below_variables {size : Nat} {values : List VariableInitializer} (fits : sizeOf values < size) :
    Below size (ofVariables values) := below_map (fun _ => Nat.le_refl _) fits

theorem below_accessors {size : Nat} {values : List Accessor} (fits : sizeOf values < size) :
    Below size (ofAccessors values) := below_map (fun _ => Nat.le_refl _) fits

theorem below_clauses {size : Nat} {values : List QueryClause} (fits : sizeOf values < size) :
    Below size (values.map queryClause) := below_map (fun _ => Nat.le_refl _) fits

theorem below_orderings {size : Nat} {values : List QueryOrdering} (fits : sizeOf values < size) :
    Below size (values.map queryOrdering) := below_map (fun _ => Nat.le_refl _) fits

theorem below_sections {size : Nat} {values : List SwitchSection} (fits : sizeOf values < size) :
    Below size (values.map switchSection) := below_map (fun _ => Nat.le_refl _) fits

theorem below_catchClauses {size : Nat} {values : List CatchClause} (fits : sizeOf values < size) :
    Below size (values.map catchClause) := below_map (fun _ => Nat.le_refl _) fits

theorem below_uses {size : Nat} {values : List Attribute} (fits : sizeOf values < size) :
    Below size (values.map attributeUse) := below_map (fun _ => Nat.le_refl _) fits

theorem below_buffers {size : Nat} {values : List FixedVariable} (fits : sizeOf values < size) :
    Below size (values.map fixedVariable) := below_map (fun _ => Nat.le_refl _) fits

theorem below_labels {size : Nat} {values : List CaseLabel} (fits : sizeOf values < size) :
    Below size (values.map caseLabel) := below_map (fun _ => Nat.le_refl _) fits

theorem below_namespaceMembers {size : Nat} {values : List NamespaceMember} (fits : sizeOf values < size) :
    Below size (values.map ofNamespaceMember) := below_map sizeOf_ofNamespaceMember_le fits

theorem below_typeMembers {size : Nat} {values : List TypeMember} (fits : sizeOf values < size) :
    Below size (values.map ofTypeMember) := below_map sizeOf_ofTypeMember_le fits

theorem below_type_option {size : Nat} {value : Option TypeRef} (fits : sizeOf value < size) :
    Below size (ofType? value) := below_map_option sizeOf_ofType_le fits

theorem below_expression_option {size : Nat} {value : Option Expression} (fits : sizeOf value < size) :
    Below size (ofExpression? value) := below_map_option sizeOf_ofExpression_le fits

theorem below_block_option {size : Nat} {value : Option Block} (fits : sizeOf value < size) :
    Below size (ofBlock? value) := below_map_option (fun _ => Nat.le_refl _) fits

theorem below_statement_option {size : Nat} {value : Option Statement} (fits : sizeOf value < size) :
    Below size (value.toList.map ofStatement) := below_map_option sizeOf_ofStatement_le fits

theorem below_arrayInitializer_option {size : Nat} {value : Option ArrayInitializer}
    (fits : sizeOf value < size) :
    Below size (value.toList.map arrayInitializer) := below_map_option (fun _ => Nat.le_refl _) fits

theorem below_constructorInitializer_option {size : Nat} {value : Option ConstructorInitializer}
    (fits : sizeOf value < size) :
    Below size (value.toList.map constructorInitializer) := below_map_option (fun _ => Nat.le_refl _) fits

theorem below_childrenOfType (type : TypeRef) :
    Below (1 + sizeOf type) (childrenOfType type) := by
  cases type
  all_goals simp only [childrenOfType]
  all_goals repeat' with_reducible first
    | exact below_nil _
    | apply below_append
    | apply below_cons
    | apply below_types
    | apply below_specifiers
    | apply ofType_lt
  all_goals simp
  all_goals omega

theorem below_childrenOfExpression (found : Expression) :
    Below (1 + sizeOf found) (childrenOfExpression found) := by
  cases found
  case arrayInitializer initializer =>
      exact below_expressions (Nat.lt_of_lt_of_le (sizeOf_elements_lt initializer) (by simp; omega))
  case query found => exact below_clauses (Nat.lt_of_lt_of_le (sizeOf_clauses_lt found) (by simp; omega))
  all_goals simp only [childrenOfExpression]
  all_goals repeat' with_reducible first
    | exact below_nil _
    | apply below_append
    | apply below_cons
    | apply below_types
    | apply below_expressions
    | apply below_parameters
    | apply below_specifiers
    | apply below_clauses
    | apply below_arrayInitializer_option
    | apply ofType_lt
    | apply ofExpression_lt
    | apply ofLambdaBody_lt
  all_goals simp
  all_goals omega

theorem below_childrenOfClause (clause : QueryClause) :
    Below (1 + sizeOf clause) (childrenOfClause clause) := by
  cases clause
  all_goals simp only [childrenOfClause]
  all_goals repeat' with_reducible first
    | exact below_nil _
    | apply below_append
    | apply below_cons
    | apply below_orderings
    | apply below_type_option
    | apply ofExpression_lt
  all_goals simp
  all_goals omega

theorem below_childrenOfStatement (found : Statement) :
    Below (1 + sizeOf found) (childrenOfStatement found) := by
  cases found
  case block found =>
      exact below_statements (Nat.lt_of_lt_of_le (sizeOf_statements_lt found) (by simp; omega))
  case localVariables declaration =>
      have parts := sizeOf_variables_lt declaration
      exact below_cons (ofType_lt (by simp; omega)) (below_variables (by simp; omega))
  all_goals simp only [childrenOfStatement]
  all_goals repeat' with_reducible first
    | exact below_nil _
    | apply below_append
    | apply below_cons
    | apply below_statements
    | apply below_variables
    | apply below_sections
    | apply below_catchClauses
    | apply below_expression_option
    | apply below_statement_option
    | apply below_block_option
    | apply ofType_lt
    | apply ofExpression_lt
    | apply ofStatement_lt
    | apply ofUsingResource_lt
  all_goals simp
  all_goals omega

mutual

theorem below_embedded : (placeholder : Pattern) → Below (1 + sizeOf placeholder) placeholder.embedded
  | .any _ => below_nil _
  | .backreference _ => below_nil _
  | .identifierBackreference _ => below_nil _
  | .choice alternatives => by
      have nested := below_embeddedInItems alternatives
      intro node member
      have bound := nested node member
      simp only [Pattern.choice.sizeOf_spec]
      omega
  | .named _ child => by
      intro node member
      have bound := below_item child node member
      simp only [Pattern.named.sizeOf_spec]
      omega
  | .repeated _ _ child => by
      intro node member
      have bound := below_item child node member
      simp only [Pattern.repeated.sizeOf_spec]
      omega
  | .optional child => by
      intro node member
      have bound := below_item child node member
      simp only [Pattern.optional.sizeOf_spec]
      omega

theorem below_item : (item : PatternItem) → Below (1 + sizeOf item) item.embedded
  | .pattern nested => by
      intro node member
      have bound := below_embedded nested node member
      simp only [PatternItem.pattern.sizeOf_spec]
      omega
  | .type found => below_cons (ofType_lt (by simp)) (below_nil _)
  | .expression found => below_cons (ofExpression_lt (by simp)) (below_nil _)
  | .statement found => below_cons (ofStatement_lt (by simp)) (below_nil _)
  | .value _ => below_nil _

theorem below_embeddedInItems : (items : List PatternItem) →
    Below (1 + sizeOf items) (embeddedInItems items)
  | [] => below_nil _
  | item :: rest => by
      intro node member
      simp only [List.cons.sizeOf_spec]
      rcases List.mem_append.mp member with first | later
      · have bound := below_item item node first
        omega
      · have bound := below_embeddedInItems rest node later
        omega

end

theorem below_children (node : Node) : Below (sizeOf node) node.children := by
  cases node
  case type found => exact below_childrenOfType found
  case expression found => exact below_childrenOfExpression found
  case queryClause clause => exact below_childrenOfClause clause
  case statement found => exact below_childrenOfStatement found
  case pattern found => exact below_embedded found
  case documentationReference reference =>
      cases reference
      simp only [children]
      split
      all_goals repeat' with_reducible first
        | exact below_nil _
        | apply below_append
        | apply below_types
        | apply below_parameters
        | apply below_type_option
      all_goals simp
      all_goals omega
  all_goals rename_i found
  all_goals cases found
  all_goals simp only [children]
  all_goals repeat' with_reducible first
    | exact below_nil _
    | apply below_append
    | apply below_cons
    | apply below_types
    | apply below_expressions
    | apply below_statements
    | apply below_attributes
    | apply below_parameters
    | apply below_typeParameters
    | apply below_constraints
    | apply below_variables
    | apply below_accessors
    | apply below_clauses
    | apply below_uses
    | apply below_buffers
    | apply below_labels
    | apply below_namespaceMembers
    | apply below_typeMembers
    | apply below_type_option
    | apply below_expression_option
    | apply below_block_option
    | apply below_constructorInitializer_option
    | apply ofType_lt
    | apply ofExpression_lt
  all_goals simp
  all_goals omega

theorem sizeOf_child_lt {node child : Node} (isChild : child ∈ node.children) :
    sizeOf child < sizeOf node := below_children node child isChild

end Node

/-- The children of a node that a walk goes on to. -/
structure Descent where
  next : Node → List Node
  within : ∀ node, ∀ child ∈ next node, child ∈ node.children

namespace Descent

variable (descent : Descent)

def below (node : Node) : List Node :=
  node :: (descent.next node).attach.flatMap fun ⟨child, _⟩ => below child
termination_by sizeOf node
decreasing_by exact Node.sizeOf_child_lt (descent.within _ _ ‹_›)

theorem below_eq (node : Node) : descent.below node = node :: (descent.next node).flatMap descent.below := by
  rw [below]
  simp

-- The head of the list is the top of the stack, so children are pushed from the last to the first.
def push (pending children : List Node) : List Node :=
  children.reverse.foldl (fun pending child => child :: pending) pending

theorem push_eq (pending children : List Node) : push pending children = children ++ pending := by
  simp [push]

def loop (visited : Array Node) : List Node → Array Node
  | [] => visited
  | node :: pending => loop (visited.push node) (push pending (descent.next node))
termination_by pending => (pending.flatMap descent.below).length
decreasing_by
  rw [push_eq, List.flatMap_append, List.flatMap_cons, below_eq]
  simp

def walk (node : Node) : List Node := (descent.loop #[] [node]).toList

theorem loop_toList (visited : Array Node) (pending : List Node) :
    (descent.loop visited pending).toList = visited.toList ++ pending.flatMap descent.below := by
  fun_induction descent.loop visited pending with
  | case1 visited => simp
  | case2 visited node pending ih =>
      rw [ih, push_eq, List.flatMap_append, List.flatMap_cons, below_eq]
      simp

theorem walk_eq_below (node : Node) : descent.walk node = descent.below node := by
  rw [walk, loop_toList]
  simp

end Descent

namespace Node

def preorder (node : Node) : List Node := Descent.walk ⟨children, fun _ _ member => member⟩ node

theorem preorder_eq (node : Node) : node.preorder = node :: node.children.flatMap preorder := by
  have same : preorder = Descent.below ⟨children, fun _ _ member => member⟩ :=
    funext (Descent.walk_eq_below _)
  rw [same]
  exact Descent.below_eq _ node

end Node

end CSharpLayout
