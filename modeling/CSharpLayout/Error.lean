/-! Errors of printing and of loading a configuration. -/

namespace CSharpLayout

inductive Error where
  | malformedTree (kind path message : String)
  | structureViolation (expectedParent found path : String)
  | unbalancedNodes (message : String)
  | configuration (message : String)
  | io (path source : String)
  | serialization (message : String)
  | output (message : String)
  deriving DecidableEq, Repr

inductive ErrorKind where
  | malformedTree
  | structural
  | configuration
  | io
  | serialization
  | output
  deriving DecidableEq, Repr

namespace Error

def kind : Error → ErrorKind
  | .malformedTree _ _ _ => .malformedTree
  | .structureViolation _ _ _ => .structural
  | .unbalancedNodes _ => .structural
  | .configuration _ => .configuration
  | .io _ _ => .io
  | .serialization _ => .serialization
  | .output _ => .output

def isRecoverable (error : Error) : Bool := error.kind = .io || error.kind = .serialization

def message : Error → String
  | .malformedTree kind path problem => "Malformed " ++ kind ++ " at " ++ path ++ ": " ++ problem
  | .structureViolation expectedParent found path =>
      "Structure violation at " ++ path ++ ": " ++ found ++ " is not a child of " ++ expectedParent
  | .unbalancedNodes problem => "Unbalanced node markers: " ++ problem
  | .configuration problem => "Configuration error: " ++ problem
  | .io path source => "IO error for path '" ++ path ++ "': " ++ source
  | .serialization problem => "Serialization error: " ++ problem
  | .output problem => "Output error: " ++ problem

end Error

end CSharpLayout
