import CSharpLayout.File.Path

/-! A finite tree of files. There are no links, symbolic or hard: every file stands at one place, so two
paths lead to the same file exactly when they resolve to the same place, and what is written to a path
changes no other place. -/

namespace CSharpLayout

structure Place where
  names : List String
  deriving DecidableEq, Repr

namespace Place

def root : Place := ⟨[]⟩

def parent (place : Place) : Place := ⟨place.names.dropLast⟩

def child (place : Place) (name : String) : Place := ⟨place.names ++ [name]⟩

def path (place : Place) : String := "/" ++ Path.ofSegments place.names

def upward (place : Place) : List Place :=
  (List.range (place.names.length + 1)).map fun up =>
    ⟨place.names.take (place.names.length - up)⟩

def isAbove (upper lower : Place) : Bool :=
  upper.names.length < lower.names.length && upper.names.isPrefixOf lower.names

end Place

inductive FileProblem where
  | notFound
  | notDirectory
  | isDirectory
  deriving DecidableEq, Repr

def FileProblem.message : FileProblem → String
  | .notFound => "No such file or directory (os error 2)"
  | .notDirectory => "Not a directory (os error 20)"
  | .isDirectory => "Is a directory (os error 21)"

/-- Files with their contents, and directories; none of them is a link. A directory above a file need not be
listed. -/
structure FileTree where
  files : List (Place × String) := []
  directories : List Place := []
  deriving DecidableEq, Repr

namespace FileTree

def content? (tree : FileTree) (place : Place) : Option String := tree.files.lookup place

def isFileAt (tree : FileTree) (place : Place) : Bool := (tree.content? place).isSome

def isDirectoryAt (tree : FileTree) (place : Place) : Bool :=
  place = .root || tree.directories.contains place ||
    tree.files.any (fun file => place.isAbove file.1) ||
    tree.directories.any (fun directory => place.isAbove directory)

def enter (tree : FileTree) (place : Place) (segment : String) : Except FileProblem Place :=
  if !tree.isDirectoryAt place then .error .notDirectory
  else if segment == "" || segment == "." then .ok place
  else if segment == ".." then .ok place.parent
  else
    let next := place.child segment
    if tree.isFileAt next || tree.isDirectoryAt next then .ok next else .error .notFound

def resolve (tree : FileTree) (base : Place) (path : String) : Except FileProblem Place :=
  if path.isEmpty then .error .notFound
  else
    (Path.segments path).foldlM tree.enter (if Path.isAbsolute path then .root else base)

def isFile (tree : FileTree) (base : Place) (path : String) : Bool :=
  match tree.resolve base path with
  | .ok place => tree.isFileAt place
  | .error _ => false

def isDirectory (tree : FileTree) (base : Place) (path : String) : Bool :=
  match tree.resolve base path with
  | .ok place => tree.isDirectoryAt place
  | .error _ => false

def contains (tree : FileTree) (base : Place) (path : String) : Bool :=
  match tree.resolve base path with
  | .ok _ => true
  | .error _ => false

def readAt (tree : FileTree) (place : Place) : Except FileProblem String :=
  match tree.content? place with
  | some content => .ok content
  | none => .error (if tree.isDirectoryAt place then .isDirectory else .notFound)

def read (tree : FileTree) (base : Place) (path : String) : Except FileProblem String := do
  tree.readAt (← tree.resolve base path)

def writeAt (tree : FileTree) (place : Place) (content : String) : FileTree :=
  if tree.isFileAt place then
    { tree with
      files := tree.files.map fun file => if file.1 = place then (place, content) else file }
  else { tree with files := tree.files ++ [(place, content)] }

def write (tree : FileTree) (base : Place) (path content : String) :
    Except FileProblem FileTree :=
  match tree.resolve base path with
  | .ok place =>
      if tree.isDirectoryAt place then .error .isDirectory else .ok (tree.writeAt place content)
  | .error problem =>
      match Path.fileName? path, Path.parent? path with
      | some name, some above => do
          let place ← tree.resolve base (if above.isEmpty then "." else above)
          if tree.isDirectoryAt place then pure (tree.writeAt (place.child name) content)
          else throw .notDirectory
      | _, _ => .error problem

def namesBefore : List String → List String → Bool
  | [], _ => true
  | _ :: _, [] => false
  | left :: lefts, right :: rights =>
      if left == right then namesBefore lefts rights else decide (left < right)

/-- The names from a directory down to each file below it, in the order of a walk that takes the entries
of every directory by name. -/
def filesBelow (tree : FileTree) (place : Place) : List (List String) :=
  ((tree.files.filter fun file => place.isAbove file.1).map fun file =>
    file.1.names.drop place.names.length).mergeSort namesBefore

end FileTree

end CSharpLayout
