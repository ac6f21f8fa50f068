import CSharpLayout.Config.Json
import CSharpLayout.Config.Toml
import CSharpLayout.Config.Yaml
import CSharpLayout.File.Tree
import CSharpLayout.Json.Reader

/-! Finding and loading configuration files. A file is merged with the files it inherits from, each of
which is loaded first. -/

namespace CSharpLayout

def configFileNames : List String :=
  [".sharpoutrc.json", ".sharpoutrc.toml", "sharpout.yaml", "sharpout.yml", "sharpout.json"]

inductive ConfigFormat where
  | json
  | toml
  | yaml
  deriving DecidableEq, Repr

namespace ConfigFormat

def ofExtension? : Option String → Option ConfigFormat
  | some "json" => some .json
  | some "toml" => some .toml
  | some "yaml" => some .yaml
  | some "yml" => some .yaml
  | _ => none

def read? : ConfigFormat → String → Option Config
  | .json => fun text => (Json.parseDocument? text).bind Config.ofJson?
  | .toml => Config.ofToml?
  | .yaml => Config.ofYaml?

end ConfigFormat

namespace Config

inductive TextProblem where
  | unsupportedExtension
  | unreadable
  deriving DecidableEq, Repr

def TextProblem.message : TextProblem → String
  | .unsupportedExtension => "Unsupported file extension (expected .json, .toml, .yaml or .yml)"
  | .unreadable => "the text is not a valid configuration"

def ofText (extension : Option String) (text : String) : Except TextProblem Config :=
  match ConfigFormat.ofExtension? extension with
  | none => .error .unsupportedExtension
  | some format =>
      match format.read? text with
      | none => .error .unreadable
      | some config => .ok config

def textError (path : String) (problem : TextProblem) : Error :=
  .configuration ("Failed to load config from '" ++ path ++ "': " ++ problem.message)

def ofContent (path : String) : Except FileProblem String → Except Error Config
  | .error problem => .error (.io path problem.message)
  | .ok text => (ofText (Path.extension? path) text).mapError (textError path)

def parseFile (tree : FileTree) (base : Place) (path : String) : Except Error Config :=
  ofContent path (tree.read base path)

def parsePlace (tree : FileTree) (place : Place) : Except Error Config :=
  ofContent place.path (tree.readAt place)

def circular (chain : List Place) : Error :=
  .configuration ("Circular extends: " ++ " -> ".intercalate (chain.map Place.path))

def remaining (tree : FileTree) (chain : List Place) : Nat :=
  (tree.files.filter fun file => !chain.contains file.1).length

theorem content_of_parsePlace {tree : FileTree} {place : Place} {config : Config}
    (parsed : parsePlace tree place = .ok config) : ∃ text, tree.content? place = some text := by
  unfold parsePlace FileTree.readAt at parsed
  split at parsed
  · exact ⟨_, ‹_›⟩
  · simp [ofContent] at parsed

theorem remaining_lt {tree : FileTree} {chain : List Place} {place : Place} {text : String}
    (present : tree.content? place = some text) (fresh : place ∉ chain) :
    remaining tree (chain ++ [place]) < remaining tree chain := by
  have member : (place, text) ∈ tree.files := by
    have found := List.lookup_eq_some_iff.mp present
    obtain ⟨before, after, split, -⟩ := found
    simp [split]
  unfold remaining
  have narrowed : (tree.files.filter fun file => !(chain ++ [place]).contains file.1) =
      (tree.files.filter fun file => !chain.contains file.1).filter fun file => file.1 ≠ place := by
    rw [List.filter_filter]
    congr 1
    funext file
    simp [Bool.and_comm]
  rw [narrowed]
  refine List.length_filter_lt_length_iff_exists.mpr ⟨(place, text), ?_, by simp⟩
  simp [member, fresh]

/-- A file and everything it inherits from. The chain holds the places that are being loaded, from the
first to the nearest; a file may be reached twice, but not while it is being loaded. -/
def loadChain (tree : FileTree) (base : Place) (chain : List Place) (path : String) :
    Except Error Config :=
  match tree.resolve base path with
  | .error problem => .error (.io path problem.message)
  | .ok place =>
      if _again : place ∈ chain then .error (circular (chain ++ [place]))
      else match _parsed : parsePlace tree place with
        | .error error => .error error
        | .ok config =>
            (config.parents.getD []).foldlM (fun merged parent => do
              let inherited ←
                loadChain tree base (chain ++ [place]) (Path.join place.parent.path parent)
              pure (merged.merge inherited)) config
termination_by remaining tree chain
decreasing_by
  obtain ⟨text, present⟩ := content_of_parsePlace _parsed
  exact remaining_lt present _again

def loadFile (tree : FileTree) (base : Place) (path : String) : Except Error Config :=
  loadChain tree base [] path

def fileIn? (tree : FileTree) (directory : Place) : Option Place :=
  (configFileNames.map directory.child).find? tree.isFileAt

def discover (tree : FileTree) (base : Place) (start : String) : Except Error (Option Place) :=
  match tree.resolve base start with
  | .error problem => .error (.configuration ("Invalid path: " ++ problem.message))
  | .ok place => .ok (place.upward.findSome? (fileIn? tree))

def load (tree : FileTree) (base : Place) (path : Option String) (start : String) :
    Except Error Config :=
  match path with
  | some given =>
      if tree.contains base given then loadFile tree base given
      else .error (.configuration ("Config file not found: " ++ given))
  | none => do
      match ← discover tree base start with
      | none => pure {}
      | some place => loadFile tree base place.path

end Config

end CSharpLayout
