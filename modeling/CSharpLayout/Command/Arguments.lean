import CSharpLayout.Config.Loading

/-! The arguments of the command line. Shared options may stand before or after the name of a command; the
one that stands deepest counts. -/

namespace CSharpLayout

namespace Command

inductive PrintMode where
  | stdout
  | write
  | check
  deriving DecidableEq, Repr

inductive Action where
  | print (inputs : List String) (mode : PrintMode)
  | map (input : String) (withText : Bool)
  | create (format : ConfigFormat) (force : Bool)
  | validate (path : Option String)
  | display (resolved : Bool)
  | schema (output : Option String)
  | version
  deriving DecidableEq, Repr

structure Invocation where
  action : Action
  config : Option String := none
  preset : Option Preset := none
  colored : Bool := true
  deriving DecidableEq, Repr

inductive Stop where
  | usage
  | help
  | version
  deriving DecidableEq, Repr

inductive Flag where
  | config
  | preset
  | verbose
  | noColor
  | threads
  | help
  | version
  | write
  | check
  | withText
  | format
  | force
  | resolved
  | output
  | detailed
  deriving DecidableEq, Repr

namespace Flag

def long : Flag → String
  | .config => "config"
  | .preset => "preset"
  | .verbose => "verbose"
  | .noColor => "no-color"
  | .threads => "threads"
  | .help => "help"
  | .version => "version"
  | .write => "write"
  | .check => "check"
  | .withText => "with-text"
  | .format => "format"
  | .force => "force"
  | .resolved => "resolved"
  | .output => "output"
  | .detailed => "detailed"

def short? : Flag → Option Char
  | .config => some 'c'
  | .verbose => some 'v'
  | .threads => some 'j'
  | .help => some 'h'
  | .version => some 'V'
  | .output => some 'o'
  | _ => none

def takesValue : Flag → Bool
  | .config => true
  | .preset => true
  | .threads => true
  | .format => true
  | .output => true
  | _ => false

end Flag

instance : Spelled ConfigFormat where
  all := [.json, .toml, .yaml]
  spelling
    | .json => "json"
    | .toml => "toml"
    | .yaml => "yaml"

def isCount (text : String) : Bool :=
  let digits := match text.toList with
    | '+' :: rest => rest
    | chars => chars
  !digits.isEmpty && digits.all Char.isDigit && digitsValue digits < Nat.pow 2 64

def Flag.accepts (flag : Flag) (value : String) : Bool :=
  match flag with
  | .config => !value.isEmpty
  | .output => !value.isEmpty
  | .preset => (Spelled.ofSpelling? value : Option Preset).isSome
  | .format => (Spelled.ofSpelling? value : Option ConfigFormat).isSome
  | .threads => isCount value
  | _ => true

inductive Scope where
  | top
  | print
  | map
  | config
  | create
  | validate
  | display
  | schema
  | version
  deriving DecidableEq, Repr

namespace Scope

def ownFlags : Scope → List Flag
  | .top => [.version]
  | .print => [.write, .check]
  | .map => [.withText]
  | .create => [.format, .force]
  | .display => [.resolved]
  | .schema => [.output]
  | .version => [.detailed]
  | _ => []

def flags (scope : Scope) : List Flag :=
  scope.ownFlags ++ [.config, .preset, .verbose, .noColor, .threads, .help]

def subcommand? : Scope → String → Option Scope
  | .top, "print" => some .print
  | .top, "fmt" => some .print
  | .top, "map" => some .map
  | .top, "config" => some .config
  | .top, "version" => some .version
  | .top, "ver" => some .version
  | .config, "init" => some .create
  | .config, "validate" => some .validate
  | .config, "show" => some .display
  | .config, "schema" => some .schema
  | _, _ => none

def admitsPath (scope : Scope) (count : Nat) : Bool :=
  match scope with
  | .print => true
  | .map => count = 0
  | .validate => count = 0
  | _ => false

def hasSubcommands : Scope → Bool
  | .top => true
  | .config => true
  | _ => false

end Scope

/-- What has been read. The latest option comes first; `here` lists those of the current scope. -/
structure Reading where
  scope : Scope := .top
  given : List (Flag × String) := []
  here : List Flag := []
  paths : List String := []

namespace Reading

def give (reading : Reading) (flag : Flag) (value : String) : Except Stop Reading :=
  if flag = .help then .error .help
  else if flag = .version then .error .version
  else if reading.here.contains flag && flag ≠ .verbose then .error .usage
  else if !flag.accepts value then .error .usage
  else
    .ok { reading with
      given := (flag, value) :: reading.given
      here := flag :: reading.here }

def path (reading : Reading) (text : String) : Except Stop Reading :=
  if text.isEmpty || !reading.scope.admitsPath reading.paths.length then .error .usage
  else .ok { reading with paths := reading.paths ++ [text] }

def name (reading : Reading) (text : String) : Except Stop Reading :=
  if reading.scope.hasSubcommands then
    match reading.scope.subcommand? text with
    | some scope => .ok { reading with scope, here := [] }
    | none => if text == "help" then .error .help else .error .usage
  else reading.path text

def longFlag? (reading : Reading) (text : String) : Option Flag :=
  reading.scope.flags.find? fun flag => flag.long == text

def shortFlag? (reading : Reading) (c : Char) : Option Flag :=
  reading.scope.flags.find? fun flag => flag.short? == some c

/-- Letters after a single dash. A letter that takes a value takes the rest of the word, and without a rest
it waits for the next word. -/
def letters (reading : Reading) : List Char → Except Stop (Reading × Option Flag)
  | [] => .ok (reading, none)
  | c :: rest =>
      match reading.shortFlag? c with
      | none => .error .usage
      | some flag =>
          if flag.takesValue then
            match rest with
            | [] => .ok (reading, some flag)
            | '=' :: value =>
                (reading.give flag (String.ofList value)).map fun reading => (reading, none)
            | value => (reading.give flag (String.ofList value)).map fun reading => (reading, none)
          else
            match reading.give flag "" with
            | .error stop => .error stop
            | .ok reading => reading.letters rest

def long (reading : Reading) (word : List Char) : Except Stop (Reading × Option Flag) :=
  let name := String.ofList (word.takeWhile (· ≠ '='))
  match reading.longFlag? name, word.dropWhile (· ≠ '=') with
  | none, _ => .error .usage
  | some flag, [] =>
      if flag.takesValue then .ok (reading, some flag)
      else (reading.give flag "").map fun reading => (reading, none)
  | some flag, _ :: value =>
      if flag.takesValue then
        (reading.give flag (String.ofList value)).map fun reading => (reading, none)
      else .error .usage

def isOption (word : String) : Bool :=
  match word.toList with
  | '-' :: _ :: _ => true
  | _ => false

def words (reading : Reading) : List String → Except Stop Reading
  | [] => .ok reading
  | word :: rest =>
      let read := match word.toList with
        | ['-', '-'] => none
        | '-' :: '-' :: name => some (reading.long name)
        | '-' :: c :: more => some (reading.letters (c :: more))
        | _ => some ((reading.name word).map fun reading => (reading, none))
      match read with
      | none => rest.foldlM Reading.path reading
      | some (.error stop) => .error stop
      | some (.ok (reading, none)) => reading.words rest
      | some (.ok (reading, some flag)) =>
          match rest with
          | [] => .error .usage
          | value :: rest =>
              if isOption value then .error .usage
              else match reading.give flag value with
                | .error stop => .error stop
                | .ok reading => reading.words rest

def has (reading : Reading) (flag : Flag) : Bool := reading.given.any fun option => option.1 = flag

def value? (reading : Reading) (flag : Flag) : Option String := reading.given.lookup flag

def action (reading : Reading) : Except Stop Action :=
  match reading.scope with
  | .top => .error .help
  | .config => .error .usage
  | .print =>
      if reading.paths.isEmpty || (reading.has .write && reading.has .check) then .error .usage
      else
        .ok (.print reading.paths
          (if reading.has .check then .check else if reading.has .write then .write else .stdout))
  | .map =>
      match reading.paths with
      | [input] => .ok (.map input (reading.has .withText))
      | _ => .error .usage
  | .create =>
      .ok (.create (((reading.value? .format).bind Spelled.ofSpelling?).getD .json)
        (reading.has .force))
  | .validate => .ok (.validate reading.paths.head?)
  | .display => .ok (.display (reading.has .resolved))
  | .schema => .ok (.schema (reading.value? .output))
  | .version => .ok .version

end Reading

def parse (arguments : List String) : Except Stop Invocation := do
  let reading ← ({} : Reading).words arguments
  let action ← reading.action
  pure {
    action
    config := reading.value? .config
    preset := (reading.value? .preset).bind Spelled.ofSpelling?
    colored := !reading.has .noColor }

end Command

end CSharpLayout
