import CSharpLayout.Node.Children

/-! The literals that a node holds, in itself or further down. A node is exact if none of them is a
floating-point number. -/

namespace CSharpLayout

def Literal.isFloating : Literal → Bool
  | .float _ => true
  | .double _ => true
  | _ => false

mutual

def Pattern.values : Pattern → List Literal
  | .any _ => []
  | .backreference _ => []
  | .identifierBackreference _ => []
  | .choice alternatives => valuesInItems alternatives
  | .named _ child => child.values
  | .repeated _ _ child => child.values
  | .optional child => child.values

def PatternItem.values : PatternItem → List Literal
  | .pattern nested => nested.values
  | .type _ => []
  | .expression _ => []
  | .statement _ => []
  | .value found => [found]

def valuesInItems : List PatternItem → List Literal
  | [] => []
  | item :: rest => item.values ++ valuesInItems rest

end

namespace Node

/-- The literal stands in the node. The type that a conversion returns belongs to a reference in a comment
although it is a child of references to operators only. -/
inductive Holds : Node → Literal → Prop where
  | literal {value : Literal} {raw : Option String} : Holds (.expression (.literal value raw)) value
  | listed {found : Pattern} {value : Literal} (member : value ∈ found.values) : Holds (.pattern found) value
  | conversion {reference : DocumentationReference} {type : TypeRef} {value : Literal}
      (given : type ∈ reference.conversionReturnType) (held : Holds (ofType type) value) :
      Holds (.documentationReference reference) value
  | child {node child : Node} {value : Literal} (member : child ∈ node.children) (held : Holds child value) :
      Holds node value

def IsExact (node : Node) : Prop := ∀ value, node.Holds value → value.isFloating = false

def ExactAs {α : Type} (build : α → Node) (value : α) : Prop := (build value).IsExact

def AllExact (nodes : List Node) : Prop := ∀ node ∈ nodes, node.IsExact

theorem IsExact.all {node : Node} (exact : node.IsExact) : AllExact node.children :=
  fun _ member value held => exact value (.child member held)

namespace AllExact

variable {α : Type} {node : Node} {nodes others : List Node} {build : α → Node}

theorem head (exact : AllExact (node :: nodes)) : node.IsExact := exact node (by simp)

theorem tail (exact : AllExact (node :: nodes)) : AllExact nodes :=
  fun other member => exact other (by simp [member])

theorem left (exact : AllExact (nodes ++ others)) : AllExact nodes :=
  fun node member => exact node (by simp [member])

theorem right (exact : AllExact (nodes ++ others)) : AllExact others :=
  fun node member => exact node (by simp [member])

theorem each {values : List α} (exact : AllExact (values.map build)) :
    ∀ value ∈ values, ExactAs build value :=
  fun _ member => exact _ (List.mem_map_of_mem member)

theorem option {value : Option α} (exact : AllExact (value.toList.map build)) :
    ∀ found ∈ value, ExactAs build found :=
  fun _ member => exact.each _ (Option.mem_toList.mpr member)

end AllExact

end Node

namespace PatternItem

structure IsExact (item : PatternItem) : Prop where
  values : ∀ value ∈ item.values, value.isFloating = false
  embedded : Node.AllExact item.embedded

theorem isExact_of_mem {items : List PatternItem}
    (values : ∀ value ∈ valuesInItems items, value.isFloating = false)
    (embedded : Node.AllExact (embeddedInItems items)) : ∀ item ∈ items, item.IsExact := by
  induction items with
  | nil => simp
  | cons first rest ih =>
      rw [valuesInItems, List.forall_mem_append] at values
      rw [embeddedInItems] at embedded
      intro item member
      rcases List.mem_cons.mp member with rfl | later
      · exact ⟨values.1, embedded.left⟩
      · exact ih values.2 embedded.right item later

theorem IsExact.pattern {found : Pattern} (exact : (PatternItem.pattern found).IsExact) :
    (Node.pattern found).IsExact := by
  intro value held
  cases held with
  | listed member => exact exact.values value (by rwa [PatternItem.values])
  | child member held => exact exact.embedded _ (by rwa [PatternItem.embedded]) value held

end PatternItem

theorem Node.IsExact.item {found : Pattern} {item : PatternItem} (exact : (Node.pattern found).IsExact)
    (values : item.values = found.values) (embedded : item.embedded = found.embedded) : item.IsExact := by
  refine ⟨fun value member => exact value (.listed (values ▸ member)), ?_⟩
  rw [embedded]
  exact exact.all

end CSharpLayout
