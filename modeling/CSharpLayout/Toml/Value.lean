/-! The values of TOML, and how the statements of a file build its tables. A table or a key may be given
once, and a table that is complete cannot be extended. -/

namespace CSharpLayout

namespace Toml

/-- How a table came to be: as the parent of a table with a header, with a header of its own, by a dotted
key, or as a value in braces. -/
inductive Origin where
  | implied
  | header
  | dotted
  | braces
  deriving DecidableEq, Repr

inductive Value where
  | string (value : String)
  | integer (value : Int)
  | bool (value : Bool)
  | array (items : List Value)
  | tables (items : List (List (String × Value)))
  | table (origin : Origin) (entries : List (String × Value))

abbrev Entries := List (String × Value)

inductive Statement where
  | header (path : List String)
  | item (path : List String)
  | entry (path : List String) (value : Value)

namespace Entries

def replace (entries : Entries) (name : String) (value : Value) : Entries :=
  entries.map fun entry => if entry.1 == name then (name, value) else entry

/-- Applies a change to the table at the end of a path. Tables on the way that are missing are implied,
and an array of tables stands for its last one. -/
def within? (change : Entries → Option Entries) : List String → Entries → Option Entries
  | [], entries => change entries
  | name :: rest, entries =>
      match entries.lookup name with
      | none =>
          (within? change rest []).map fun inner => entries ++ [(name, .table .implied inner)]
      | some (.table origin inner) =>
          if origin = .braces then none
          else (within? change rest inner).map fun inner =>
            replace entries name (.table origin inner)
      | some (.tables items) =>
          match items.reverse with
          | [] => none
          | last :: before =>
              (within? change rest last).map fun last =>
                replace entries name (.tables (before.reverse ++ [last]))
      | some _ => none

def openTable? (name : String) (entries : Entries) : Option Entries :=
  match entries.lookup name with
  | none => some (entries ++ [(name, .table .header [])])
  | some (.table .implied inner) => some (replace entries name (.table .header inner))
  | some _ => none

def openItem? (name : String) (entries : Entries) : Option Entries :=
  match entries.lookup name with
  | none => some (entries ++ [(name, .tables [[]])])
  | some (.tables items) => some (replace entries name (.tables (items ++ [[]])))
  | some _ => none

def insert? (value : Value) : List String → Entries → Option Entries
  | [], _ => none
  | [name], entries =>
      if (entries.lookup name).isSome then none else some (entries ++ [(name, value)])
  | name :: rest, entries =>
      match entries.lookup name with
      | none => (insert? value rest []).map fun inner => entries ++ [(name, .table .dotted inner)]
      | some (.table origin inner) =>
          if origin = .implied || origin = .dotted then
            (insert? value rest inner).map fun inner => replace entries name (.table origin inner)
          else none
      | some _ => none

end Entries

structure Progress where
  entries : Entries := []
  path : List String := []

def Progress.step? (progress : Progress) : Statement → Option Progress
  | .header path =>
      match path.reverse with
      | [] => none
      | name :: parents =>
          (Entries.within? (Entries.openTable? name) parents.reverse progress.entries).map
            fun entries => { entries, path }
  | .item path =>
      match path.reverse with
      | [] => none
      | name :: parents =>
          (Entries.within? (Entries.openItem? name) parents.reverse progress.entries).map
            fun entries => { entries, path }
  | .entry path value =>
      (Entries.within? (Entries.insert? value path) progress.path progress.entries).map
        fun entries => { progress with entries }

def build? (statements : List Statement) : Option Entries :=
  (statements.foldlM Progress.step? {}).map Progress.entries

end Toml

end CSharpLayout
