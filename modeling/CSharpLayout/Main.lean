import CSharpLayout.Command.Run

/-! The command line program. It copies the files that the arguments can lead to into a tree, runs the
command on the tree, and writes back what has changed. -/

namespace CSharpLayout

namespace Program

def placeOf (base : Place) (path : String) : Place :=
  let start := if Path.isAbsolute path then .root else base
  (Path.segments path).foldl (fun place segment =>
    if segment == "" || segment == "." then place
    else if segment == ".." then place.parent
    else place.child segment) start

def namedPaths (invocation : Command.Invocation) : List String :=
  invocation.config.toList ++ match invocation.action with
    | .print inputs _ => inputs ++ inputs.map Command.outputPath
    | .map input _ => [input]
    | .create format _ => [Command.configFileName format]
    | .validate path => path.toList
    | .schema output => output.toList
    | .display _ => []
    | .version => []

def isRelevant (name : String) : Bool :=
  match Path.extension? name with
  | some extension => ["json", "toml", "yaml", "yml", "cs"].contains extension
  | none => false

def copyFile (tree : FileTree) (place : Place) : IO FileTree := do
  if tree.isFileAt place then return tree
  try
    let content ← IO.FS.readFile place.path
    return tree.writeAt place content
  catch _ => return tree

partial def copyDirectory (deep : Bool) (tree : FileTree) (place : Place) : IO FileTree := do
  try
    let directory ← IO.FS.realPath place.path
    let mut copied := { tree with directories := place :: tree.directories }
    for entry in ← directory.readDir do
      let inside := place.child entry.fileName
      if ← entry.path.isDir then
        if deep then copied ← copyDirectory deep copied inside
        else copied := { copied with directories := inside :: copied.directories }
      else if isRelevant entry.fileName then
        copied ← copyFile copied inside
    return copied
  catch _ => return tree

def copyPath (base : Place) (tree : FileTree) (path : String) : IO FileTree := do
  let place := placeOf base path
  let mut copied ← copyFile tree place
  copied ← copyDirectory false copied place.parent
  copied ← copyDirectory true copied place
  for above in place.upward do
    for name in configFileNames do
      copied ← copyFile copied (above.child name)
  return copied

def inherited (tree : FileTree) : List Place :=
  tree.files.flatMap fun file =>
    match Config.parsePlace tree file.1 with
    | .ok config =>
        (config.parents.getD []).map fun parent => placeOf file.1.parent parent
    | .error _ => []

partial def copyInherited (tree : FileTree) : IO FileTree := do
  let copied ← (inherited tree).foldlM copyFile tree
  if copied.files.length = tree.files.length then return tree else copyInherited copied

def copyFiles (base : Place) (arguments : List String) : IO FileTree := do
  let paths := match Command.parse arguments with
    | .ok invocation => namedPaths invocation
    | .error _ => []
  copyInherited (← ("." :: paths).foldlM (copyPath base) {})

def writeBack (before after : FileTree) : IO Unit :=
  for file in after.files do
    if before.content? file.1 != some file.2 then
      IO.FS.writeFile file.1.path file.2

def run (arguments : List String) : IO UInt32 := do
  let started ← IO.monoMsNow
  let base := placeOf .root (← IO.FS.realPath ".").toString
  let tree ← copyFiles base arguments
  let outcome := Command.run tree base arguments
  writeBack tree outcome.tree
  let elapsed := Command.durationText ((← IO.monoMsNow) - started)
  IO.print (Command.Chunk.render elapsed outcome.output)
  for message in outcome.messages do
    IO.eprintln message
  return UInt32.ofNat outcome.code

end Program

end CSharpLayout

def main (arguments : List String) : IO UInt32 :=
  CSharpLayout.Program.run arguments
