import CSharpLayout.Error
import CSharpLayout.Node.Basic

/-! The nodes that are open while a node is printed, and what depends on them: which names would read as
keywords, and what is wrong with a tree that cannot be printed. -/

namespace CSharpLayout

/-- An open node. Its address lists slots among the children, nearest first. -/
structure Frame where
  node : Node
  address : List Nat

def Frame.isSame (left right : Frame) : Bool :=
  left.address = right.address && left.node.kind = right.node.kind

inductive Problem where
  | emptyName
  | fieldWithoutVariables
  | fixedFieldWithoutVariables
  | eventWithoutVariables
  | declarationWithoutVariables
  | fixedWithoutVariables
  | sectionWithoutLabels
  | queryWithoutClauses
  | arrayWithoutDimensions
  | foreignEnumMember
  | enumMemberOutsideEnum
  | misplacedAccessor (keyword : String)
  | forHeaderStatement
  | referenceWithoutType
  | referenceWithoutOperator
  | conversionWithoutType
  | referenceWithoutName
  deriving DecidableEq, Repr

def Problem.message : Problem → String
  | .emptyName => "identifier has an empty name"
  | .fieldWithoutVariables => "field declares no variables"
  | .fixedFieldWithoutVariables => "fixed field declares no variables"
  | .eventWithoutVariables => "event declares no variables"
  | .declarationWithoutVariables => "variable declaration declares no variables"
  | .fixedWithoutVariables => "fixed statement declares no variables"
  | .sectionWithoutLabels => "switch section has no case labels"
  | .queryWithoutClauses => "query expression has no clauses"
  | .arrayWithoutDimensions => "array specifier needs at least one dimension"
  | .foreignEnumMember => "enum bodies may only contain enum members"
  | .enumMemberOutsideEnum => "enum member outside of an enum"
  | .misplacedAccessor keyword => "`" ++ keyword ++ "` accessor does not belong here"
  | .forHeaderStatement =>
      "for initializers and iterators must be expression or declaration statements"
  | .referenceWithoutType => "type reference names no type"
  | .referenceWithoutOperator => "operator reference names no operator"
  | .conversionWithoutType => "conversion operator reference has no return type"
  | .referenceWithoutName => "member reference has no member name"

/-- Why printing stops: the innermost open node is malformed, a node that is not among its children was to be
printed inside it, or a node was to be closed that is not the innermost. -/
inductive Cause where
  | malformed (problem : Problem)
  | stray (found : NodeKind)
  | crossed (closing innermost : NodeKind)
  | unopened (closing : NodeKind)
  deriving DecidableEq, Repr

structure Fault where
  frames : List Frame
  cause : Cause

namespace Fault

def path (fault : Fault) : String :=
  " > ".intercalate (fault.frames.reverse.map fun frame => frame.node.kind.name)

def innermostKind (fault : Fault) : String :=
  match fault.frames with
  | [] => "node"
  | frame :: _ => frame.node.kind.name

def toError (fault : Fault) : Error :=
  match fault.cause with
  | .malformed problem => .malformedTree fault.innermostKind fault.path problem.message
  | .stray found => .structureViolation fault.innermostKind found.name fault.path
  | .crossed closing innermost =>
      .unbalancedNodes ("closing " ++ closing.name ++ " while " ++ innermost.name ++ " is open")
  | .unopened closing => .unbalancedNodes ("closing " ++ closing.name ++ " with no open node")

end Fault

abbrev Frames := List Frame

namespace Frames

def parent? (frames : Frames) : Option Node := (frames[1]?).map Frame.node

def grandparent? (frames : Frames) : Option Node := (frames[2]?).map Frame.node

def slot? (frames : Frames) : Option Nat := frames.head?.bind fun frame => frame.address.head?

end Frames

def unconditionalKeywords : List String :=
  ["abstract", "as", "base", "bool", "break", "byte", "case", "catch", "char", "checked", "class",
    "const", "continue", "decimal", "default", "delegate", "do", "double", "else", "enum", "event",
    "explicit", "extern", "false", "finally", "fixed", "float", "for", "foreach", "goto", "if",
    "implicit", "in", "int", "interface", "internal", "is", "lock", "long", "namespace", "new",
    "null", "object", "operator", "out", "override", "params", "private", "protected", "public",
    "readonly", "ref", "return", "sbyte", "sealed", "short", "sizeof", "stackalloc", "static",
    "string", "struct", "switch", "this", "throw", "true", "try", "typeof", "uint", "ulong",
    "unchecked", "unsafe", "ushort", "using", "virtual", "void", "volatile", "while"]

def queryKeywords : List String :=
  ["from", "where", "join", "on", "equals", "into", "let", "orderby", "ascending", "descending",
    "select", "group", "by"]

namespace Node

def modifiers? : Node → Option (List Modifier)
  | .typeDeclaration declaration => some declaration.modifiers
  | .delegate declaration => some declaration.modifiers
  | .field declaration => some declaration.modifiers
  | .fixedField declaration => some declaration.modifiers
  | .method declaration => some declaration.modifiers
  | .constructor declaration => some declaration.modifiers
  | .destructor declaration => some declaration.modifiers
  | .property declaration => some declaration.modifiers
  | .indexer declaration => some declaration.modifiers
  | .accessor found => some found.modifiers
  | .event declaration => some declaration.modifiers
  | .customEvent declaration => some declaration.modifiers
  | .operator declaration => some declaration.modifiers
  | .enumMember member => some member.modifiers
  | _ => none

def asynchrony? : Node → Option Bool
  | .expression (.lambda isAsync _ _) => some isAsync
  | .expression (.anonymousMethod isAsync _ _ _) => some isAsync
  | node => node.modifiers?.map fun modifiers => modifiers.contains .async

def isQuery : Node → Bool
  | .query _ => true
  | _ => false

end Node

namespace Frames

/-- Whether a name would read as a keyword here. Query keywords count inside a query, and `await` counts
inside the nearest asynchronous function or member. -/
def isKeyword (frames : Frames) (name : String) : Bool :=
  unconditionalKeywords.contains name ||
    (queryKeywords.contains name && frames.any fun frame => frame.node.isQuery) ||
    (name == "await" && (frames.findSome? fun frame => frame.node.asynchrony?).getD false)

def escaped (frames : Frames) (identifier : Identifier) : String :=
  if identifier.verbatim || frames.isKeyword identifier.name then "@" ++ identifier.name
  else identifier.name

end Frames

end CSharpLayout
