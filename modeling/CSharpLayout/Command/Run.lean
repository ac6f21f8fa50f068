import CSharpLayout.Command.Arguments
import CSharpLayout.Command.Summary
import CSharpLayout.Config.Schema
import CSharpLayout.Layout.Print
import CSharpLayout.Node.Fragment
import CSharpLayout.Toml.Writer
import CSharpLayout.Yaml.Writer

/-! The commands, as functions of a tree of files. -/

namespace CSharpLayout

namespace Command

def programName : String := "sharpout"

def programVersion : String := "0.1.0"

structure Outcome where
  code : Nat := 0
  output : List Chunk := []
  messages : List String := []
  tree : FileTree

namespace Outcome

def success (tree : FileTree) (text : String) : Outcome := { output := [.text text], tree }

def failure (tree : FileTree) (error : Error) : Outcome :=
  { code := 1, messages := [error.message], tree }

def ofExcept (tree : FileTree) : Except Error String → Outcome
  | .ok text => success tree text
  | .error error => failure tree error

end Outcome

def treeSuffix : String := ".ast.json"

def treeStem? (name : String) : Option String :=
  let chars := name.toList
  let suffix := treeSuffix.toList
  if suffix.isSuffixOf chars then
    some (String.ofList (chars.take (chars.length - suffix.length)))
  else none

def outputPath (input : String) : String :=
  match (Path.fileName? input).bind treeStem? with
  | some stem => Path.withFileName input (stem ++ ".cs")
  | none => Path.withExtension input "cs"

def treesBelow (tree : FileTree) (place : Place) (input : String) : List String :=
  (tree.filesBelow place).filterMap fun names =>
    if (names.getLast?.bind treeStem?).isSome then some (Path.join input (Path.ofSegments names))
    else none

def treesOf (tree : FileTree) (base : Place) (input : String) : Except Error (List String) :=
  match tree.resolve base input with
  | .ok place =>
      if tree.isFileAt place then .ok [input] else .ok (treesBelow tree place input)
  | .error _ => .error (.io input "no such file or directory")

def discoverTrees (tree : FileTree) (base : Place) (inputs : List String) :
    Except Error (List String) :=
  (inputs.mapM (treesOf tree base)).map List.flatten

def directoryOf (path : String) : String :=
  match Path.parent? path with
  | none => "."
  | some above => if above.isEmpty then "." else above

def searchStart (tree : FileTree) (base : Place) : List String → String
  | [] => "."
  | first :: _ => if tree.isFile base first then directoryOf first else first

def resolvePolicy (tree : FileTree) (base : Place) (invocation : Invocation) (start : String) :
    Except Error Policy := do
  let config ← Config.load tree base invocation.config start
  (config.withPreset invocation.preset).policy

def readTree (tree : FileTree) (base : Place) (path : String) : Except Error SyntaxTree :=
  match tree.read base path with
  | .error problem => .error (.io path problem.message)
  | .ok text =>
      match (Json.parseDocument? text).bind SyntaxTree.ofJson? with
      | none => .error (.serialization "the text is not a syntax tree")
      | some found => .ok found

def renderFile (tree : FileTree) (base : Place) (policy : Policy) (path : String) :
    Except Error String := do
  print policy (← readTree tree base path)

structure Progress where
  tree : FileTree
  summary : Summary
  output : List Chunk := []
  messages : List String := []
  stopped : Option Error := none

namespace Progress

def failFile (progress : Progress) (path : String) (error : Error) : Progress :=
  { progress with
    summary := { progress.summary with failed := progress.summary.failed + 1 }
    messages := progress.messages ++ [path ++ ": " ++ error.message] }

def showFile (progress : Progress) (many : Bool) (path text : String) : Progress :=
  let heading := if many then "// " ++ path ++ "\n" else ""
  { progress with output := progress.output ++ [.text (heading ++ text)] }

def writeFile (progress : Progress) (base : Place) (path text : String) : Progress :=
  let target := outputPath path
  match progress.tree.write base target text with
  | .error problem => { progress with stopped := some (.io target problem.message) }
  | .ok tree =>
      { progress with
        tree
        summary := { progress.summary with written := progress.summary.written + 1 } }

def checkFile (progress : Progress) (base : Place) (path text : String) : Progress :=
  let target := outputPath path
  let isSame := match progress.tree.read base target with
    | .ok existing => existing == text
    | .error _ => false
  if isSame then
    { progress with
      summary := { progress.summary with unchanged := progress.summary.unchanged + 1 } }
  else
    { progress with
      summary := { progress.summary with mismatched := progress.summary.mismatched + 1 }
      output := progress.output ++ [.text ("Would reformat: " ++ target ++ "\n")] }

def step (base : Place) (mode : PrintMode) (many : Bool) (progress : Progress)
    (file : String × Except Error String) : Progress :=
  if progress.stopped.isSome then progress
  else match file.2, mode with
    | .error error, _ => progress.failFile file.1 error
    | .ok text, .stdout => progress.showFile many file.1 text
    | .ok text, .write => progress.writeFile base file.1 text
    | .ok text, .check => progress.checkFile base file.1 text

def finish (progress : Progress) (mode : PrintMode) (colored : Bool) : Outcome :=
  match progress.stopped with
  | some error =>
      { code := 1, output := progress.output, messages := progress.messages ++ [error.message],
        tree := progress.tree }
  | none =>
      let summary := progress.summary
      { code := if 0 < summary.failed || (mode = .check && 0 < summary.mismatched) then 1 else 0
        output := progress.output ++
          (if mode = .stdout then []
            else [.text (summary.text colored (mode = .check) ++ "Completed in "), .elapsed,
              .text "\n"])
        messages := progress.messages
        tree := progress.tree }

end Progress

/-- Prints tree files: to the output, next to each file, or to compare with what stands there. Every text is
computed before anything is written. -/
def runPrint (tree : FileTree) (base : Place) (invocation : Invocation) (inputs : List String)
    (mode : PrintMode) : Outcome :=
  match discoverTrees tree base inputs with
  | .error error => .failure tree error
  | .ok files =>
      if files.isEmpty then .success tree "No syntax tree files found in specified paths.\n"
      else match resolvePolicy tree base invocation (searchStart tree base inputs) with
        | .error error => .failure tree error
        | .ok policy =>
            let rendered := files.map fun path => (path, renderFile tree base policy path)
            let start : Progress := { tree, summary := { checked := files.length } }
            (rendered.foldl (Progress.step base mode (1 < files.length)) start).finish mode
              invocation.colored

end Command

namespace Location

def toJson (location : Location) : Json :=
  .object [("line", Json.count location.line), ("column", Json.count location.column),
    ("offset", Json.count location.offset)]

end Location

namespace NodeSpan

def toJson (span : NodeSpan) : Json :=
  .object [("index", Json.count span.index), ("kind", .string span.kind.name),
    ("depth", Json.count span.depth), ("start", span.start.toJson), ("end", span.stop.toJson)]

end NodeSpan

namespace Command

def mapText (tree : FileTree) (base : Place) (invocation : Invocation) (input : String)
    (withText : Bool) : Except Error String := do
  let policy ← resolvePolicy tree base invocation (directoryOf input)
  let (text, spans) ← printWithMap policy (← readTree tree base input)
  let nodes := Json.array (spans.map NodeSpan.toJson)
  let value := if withText then .object [("text", .string text), ("nodes", nodes)] else nodes
  pure (value.pretty 0 ++ "\n")

def initialConfig (preset : Preset) : Config where
  formatter := some {
    enabled := some true
    preset := some preset
    indentStyle := some .tabs
    indentSize := some 4
    lineEnding := some .lf }

def configFileName : ConfigFormat → String
  | .json => ".sharpoutrc.json"
  | .toml => ".sharpoutrc.toml"
  | .yaml => "sharpout.yaml"

def configText (format : ConfigFormat) (config : Config) : String :=
  let value := config.toJson
  match format with
  | .json => value.pretty 0
  | .toml => Toml.render (value.object?.getD [])
  | .yaml => Yaml.render (value.object?.getD [])

def runCreate (tree : FileTree) (base : Place) (invocation : Invocation) (format : ConfigFormat)
    (force : Bool) : Outcome :=
  let name := configFileName format
  if tree.contains base name && !force then
    .failure tree (.configuration ("Configuration file '" ++ name ++ "' already exists"))
  else
    let config := initialConfig (invocation.preset.getD .allman)
    match tree.write base name (configText format config) with
    | .error problem => .failure tree (.io name problem.message)
    | .ok tree =>
        .success tree
          ("✅ Created configuration file: " ++ name ++
            "\n   Edit the file to customize the formatting policy.\n")

def validationText (tree : FileTree) (base : Place) (path : Option String) :
    Except Error String := do
  let config ← Config.load tree base path "."
  let _ ← config.policy
  let formatter := config.formatter.getD {}
  pure ("✅ Configuration is valid\n   Preset: " ++
    Spelled.spelling (formatter.preset.getD .allman) ++
    "\n   Formatter enabled: " ++ (if formatter.enabled.getD true then "true" else "false") ++ "\n")

def runDisplay (tree : FileTree) (base : Place) (invocation : Invocation) (resolved : Bool) :
    Outcome :=
  match Config.load tree base invocation.config "." with
  | .error error => .failure tree error
  | .ok loaded =>
      let config := loaded.withPreset invocation.preset
      if resolved then
        let heading := "Resolved Policy:\n================\n"
        match config.policy with
        | .error error => { Outcome.failure tree error with output := [.text heading] }
        | .ok policy => .success tree (heading ++ policy.toJson.pretty 0 ++ "\n")
      else
        .success tree ("Configuration:\n==============\n" ++ config.toJson.pretty 0 ++ "\n")

def runSchema (tree : FileTree) (base : Place) : Option String → Outcome
  | none => .success tree (Schema.document.pretty 0 ++ "\n")
  | some path =>
      match tree.write base path (Schema.document.pretty 0 ++ "\n") with
      | .error problem => .failure tree (.io path problem.message)
      | .ok tree => .success tree ("✅ Wrote schema to " ++ path ++ "\n")

def runAction (tree : FileTree) (base : Place) (invocation : Invocation) : Outcome :=
  match invocation.action with
  | .print inputs mode => runPrint tree base invocation inputs mode
  | .map input withText => .ofExcept tree (mapText tree base invocation input withText)
  | .create format force => runCreate tree base invocation format force
  | .validate path => .ofExcept tree (validationText tree base path)
  | .display resolved => runDisplay tree base invocation resolved
  | .schema output => runSchema tree base output
  | .version => .success tree (programVersion ++ "\n")

def run (tree : FileTree) (base : Place) (arguments : List String) : Outcome :=
  match parse arguments with
  | .ok invocation => runAction tree base invocation
  | .error .usage => { code := 2, messages := ["the arguments are not understood"], tree }
  | .error .help => { tree }
  | .error .version => .success tree (programName ++ " " ++ programVersion ++ "\n")

end Command

end CSharpLayout
