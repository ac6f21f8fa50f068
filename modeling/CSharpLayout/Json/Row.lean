import CSharpLayout.Json.Value
import CSharpLayout.Spelling

/-! Records and tagged values in JSON. A record is an object, or an array of its fields in order from which
trailing fields with a default may be missing. A tagged value carries its tag beside the fields: as an
entry of the object or as the first item of the array. -/

namespace CSharpLayout

inductive Cell where
  | present (value : Json)
  | absent
  deriving Repr

namespace Cell

variable {α : Type}

def required (read : Json → Option α) : Cell → Option α
  | .present value => read value
  | _ => none

def withDefault (default : α) (read : Json → Option α) : Cell → Option α
  | .present value => read value
  | _ => some default

def nullable (read : Json → Option α) (value : Json) : Option (Option α) :=
  if value.isNull then some none else (read value).map some

def optional (read : Json → Option α) : Cell → Option (Option α)
  | .present value => nullable read value
  | _ => some none

end Cell

inductive Row where
  | named (entries : List (String × Json))
  | listed (items : List Json)
  deriving Repr

namespace Row

def ofJson? : Json → Option Row
  | .object entries => some (.named entries)
  | .array items => some (.listed items)
  | _ => none

def withKey (key : String) (entries : List (String × Json)) : List (String × Json) :=
  entries.filter fun entry => entry.1 == key

def entryCell? (entries : List (String × Json)) (name : String) : Option Cell :=
  match withKey name entries with
  | [] => some .absent
  | [(_, value)] => some (.present value)
  | _ => none

def itemCells? : List String → List Json → Option (List Cell)
  | [], [] => some []
  | [], _ :: _ => none
  | _ :: names, [] => (itemCells? names []).map (.absent :: ·)
  | _ :: names, item :: items => (itemCells? names items).map (.present item :: ·)

def cells? (names : List String) : Row → Option (List Cell)
  | .named entries => names.mapM (entryCell? entries)
  | .listed items => itemCells? names items

def isBlank : Row → Bool
  | .named _ => true
  | .listed items => items.isEmpty

end Row

def tagName? (inner : Bool) (names : List String) : Json → Option String
  | .string name => if names.contains name then some name else none
  | .number (.integer (.ofNat position)) => if inner then names[position]? else none
  | _ => none

def tagAndFields? (inner : Bool) (key : String) (names : List String) : Json → Option (String × Row)
  | .object entries =>
      match Row.withKey key entries with
      | [(_, tag)] =>
          (tagName? inner names tag).map fun name =>
            (name, .named (entries.filter fun entry => entry.1 != key))
      | _ => none
  | .array (tag :: items) => (tagName? inner names tag).map fun name => (name, .listed items)
  | _ => none

/-- The tag and the fields of a tagged value. The tag may come last, so all of the value has to be
readable, also the entries that are ignored. -/
def tagged? (inner : Bool) (key : String) (names : List String) (value : Json) :
    Option (String × Row) :=
  if inner || value.isReadable then tagAndFields? inner key names value else none

def keyed? : Json → Option (String × Json)
  | .object [entry] => some entry
  | _ => none

def caseName? (inner : Bool) : Json → Option String
  | .string name => some name
  | .object [(name, .null)] => some name
  | .object [(name, .object [])] => if inner then some name else none
  | _ => none

def spelled? {α : Type} [Spelled α] (inner : Bool) (value : Json) : Option α :=
  (caseName? inner value).bind Spelled.ofSpelling?

namespace Json

def listOf? {α : Type} (read : Json → Option α) : Json → Option (List α)
  | .array items => items.mapM read
  | _ => none

def int32? : Json → Option Int32
  | .number (.integer value) =>
      if -(Int.pow 2 31) ≤ value ∧ value < Int.pow 2 31 then some (Int32.ofInt value) else none
  | _ => none

def uint32? : Json → Option UInt32
  | .number (.integer value) =>
      if 0 ≤ value ∧ value < Int.pow 2 32 then some (UInt32.ofNat value.toNat) else none
  | _ => none

def int64? : Json → Option Int64
  | .number (.integer value) =>
      if -(Int.pow 2 63) ≤ value ∧ value < Int.pow 2 63 then some (Int64.ofInt value) else none
  | _ => none

def uint64? : Json → Option UInt64
  | .number (.integer value) =>
      if 0 ≤ value ∧ value < Int.pow 2 64 then some (UInt64.ofNat value.toNat) else none
  | _ => none

def char? : Json → Option Char
  | .string text =>
      match text.toList with
      | [c] => some c
      | _ => none
  | _ => none

def binary? {format : BinaryFormat} : Json → Option (Binary format)
  | .number (.integer value) => some (Binary.ofNat (value < 0) value.natAbs)
  | .number (.double value) => some value.convert
  | .number (.single value) => some value.convert
  | _ => none

def spelled {α : Type} [Spelled α] (value : α) : Json := .string (Spelled.spelling value)

def entryOf (key : String) : Option Json → List (String × Json)
  | none => []
  | some value => [(key, value)]

def entryOfList (key : String) (items : List Json) : List (String × Json) :=
  if items.isEmpty then [] else [(key, .array items)]

def entryOfFlag (key : String) (flag : Bool) : List (String × Json) :=
  if flag then [(key, .bool true)] else []

end Json

end CSharpLayout
