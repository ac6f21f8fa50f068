import CSharpLayout.Text.Split

/-! Paths as text. Segments stand between slashes; an empty segment or a dot after the first one means
nothing. -/

namespace CSharpLayout

namespace Path

def segments (path : String) : List String := Text.split '/' path

def ofSegments (parts : List String) : String := "/".intercalate parts

def isAbsolute (path : String) : Bool := path.toList.head? == some '/'

def join (base path : String) : String :=
  if isAbsolute path || base.isEmpty then path
  else if base.toList.getLast? == some '/' then base ++ path
  else base ++ "/" ++ path

def significant : List String → List String
  | [] => []
  | first :: rest =>
      first :: (rest.reverse.dropWhile fun part => part == "" || part == ".").reverse

def fileName? (path : String) : Option String :=
  match (significant (segments path)).getLast? with
  | none => none
  | some name => if name == "" || name == "." || name == ".." then none else some name

/-- The path without its last segment. A single name has the empty path above it, and the root has
nothing. -/
def parent? (path : String) : Option String :=
  match significant (segments path) with
  | [] => none
  | [only] => if only == "" then none else some ""
  | parts =>
      match significant parts.dropLast with
      | [""] => some "/"
      | above => some (ofSegments above)

/-- A file name before and after its last dot. A dot at the start of the name does not count. -/
def splitExtension (name : String) : String × Option String :=
  let parts := Text.split '.' name
  match parts.getLast? with
  | none => (name, none)
  | some last =>
      let stem := ".".intercalate parts.dropLast
      if stem.isEmpty then (name, none) else (stem, some last)

def extension? (path : String) : Option String :=
  (fileName? path).bind fun name => (splitExtension name).2

def withFileName (path name : String) : String := join ((parent? path).getD "") name

def withExtension (path extension : String) : String :=
  match fileName? path with
  | none => path
  | some name =>
      let parts := significant (segments path)
      ofSegments (parts.dropLast ++ [(splitExtension name).1 ++ "." ++ extension])

end Path

end CSharpLayout
