import CSharpLayout.Syntax.Declaration
import CSharpLayout.Text.Split

/-! Short ways to write parts of a tree by hand. What is not given is empty. -/

namespace CSharpLayout

namespace TypeRef

def named (name : Identifier) : TypeRef := .simple name []

def inside (target : TypeRef) (name : Identifier) : TypeRef := .member target false name []

def qualified (dotted : String) : TypeRef :=
  match Text.split '.' dotted with
  | [] => named { name := "" }
  | first :: rest =>
      rest.foldl (fun target name => target.inside { name }) (named { name := first })

def arrayOf (element : TypeRef) (ranks : List UInt32) : TypeRef :=
  .composed element false 0 (ranks.map fun dimensions => { dimensions })

def nullable (base : TypeRef) : TypeRef := .composed base true 0 []

end TypeRef

namespace ArrayInitializer

def ofElements (elements : List Expression) : ArrayInitializer where
  elements
  explicitBraces := true
  trailingComma := false

end ArrayInitializer

namespace Expression

def name (name : Identifier) : Expression := .identifier name []

def int (value : Int32) : Expression := .literal (.int value) none

def string (value : String) : Expression := .literal (.string value) none

def assign (left right : Expression) : Expression := .assignment left .assign right

def dot (target : Expression) (name : Identifier) : Expression := .memberReference target name []

end Expression

def Comment.line (content : String) : Comment := ⟨.singleLine, content⟩

def Statement.declare (variableType : TypeRef) (name : Identifier)
    (initializer : Option Expression) : Statement :=
  .localVariables { modifiers := [], variableType, declarators := [{ name, initializer }] }

def TypeDeclaration.empty (kind : TypeKind) (name : Identifier) : TypeDeclaration where
  attributes := []
  modifiers := []
  kind
  name
  typeParameters := []
  baseTypes := []
  constraints := []
  members := []
  trailingComma := false
  trailingSemicolon := false

def MethodDeclaration.empty (returnType : TypeRef) (name : Identifier) : MethodDeclaration where
  attributes := []
  modifiers := []
  returnType
  explicitInterface := none
  name
  typeParameters := []
  parameters := []
  constraints := []
  body := some { statements := [] }

def Parameter.named (parameterType : Option TypeRef) (name : Identifier) : Parameter where
  attributes := []
  modifier := .plain
  parameterType
  name := some name
  defaultExpression := none

def Accessor.automatic (kind : AccessorKind) : Accessor where
  attributes := []
  modifiers := []
  kind
  body := none

end CSharpLayout
