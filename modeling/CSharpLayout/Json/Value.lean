import CSharpLayout.Number.Binary

/-! JSON values. Objects keep the order of their entries, and repeated keys. -/

namespace CSharpLayout

inductive JsonNumber where
  | integer (value : Int)
  | single (value : Single)
  | double (value : Double)
  deriving DecidableEq, Repr

/-- `refused` is a well-formed part of a text that stands for no value: a number out of range, a text
with half a surrogate pair, or what is nested too deep. It can be skipped but not read. -/
inductive Json where
  | null
  | refused
  | bool (value : Bool)
  | number (value : JsonNumber)
  | string (value : String)
  | array (items : List Json)
  | object (entries : List (String × Json))
  deriving Repr

namespace Json

def integer (value : Int) : Json := .number (.integer value)

mutual

def depth : Json → Nat
  | .array items => 1 + depthOfItems items
  | .object entries => 1 + depthOfEntries entries
  | _ => 0

def depthOfItems : List Json → Nat
  | [] => 0
  | item :: rest => max item.depth (depthOfItems rest)

def depthOfEntries : List (String × Json) → Nat
  | [] => 0
  | (_, value) :: rest => max value.depth (depthOfEntries rest)

def isReadable : Json → Bool
  | .refused => false
  | .array items => areReadable items
  | .object entries => haveReadable entries
  | _ => true

def areReadable : List Json → Bool
  | [] => true
  | item :: rest => item.isReadable && areReadable rest

def haveReadable : List (String × Json) → Bool
  | [] => true
  | (_, value) :: rest => value.isReadable && haveReadable rest

/-- Refuses arrays and objects that stand inside more than `levels` others. -/
def clip : Nat → Json → Json
  | 0, .array _ => .refused
  | 0, .object _ => .refused
  | levels + 1, .array items => .array (clipItems levels items)
  | levels + 1, .object entries => .object (clipEntries levels entries)
  | _, value => value

def clipItems (levels : Nat) : List Json → List Json
  | [] => []
  | item :: rest => item.clip levels :: clipItems levels rest

def clipEntries (levels : Nat) : List (String × Json) → List (String × Json)
  | [] => []
  | (key, value) :: rest => (key, value.clip levels) :: clipEntries levels rest

end

def get? (key : String) : Json → Option Json
  | .object entries => entries.lookup key
  | _ => none

def string? : Json → Option String
  | .string value => some value
  | _ => none

def bool? : Json → Option Bool
  | .bool value => some value
  | _ => none

def array? : Json → Option (List Json)
  | .array items => some items
  | _ => none

def object? : Json → Option (List (String × Json))
  | .object entries => some entries
  | _ => none

def integer? : Json → Option Int
  | .number (.integer value) => some value
  | _ => none

def isNull : Json → Bool
  | .null => true
  | _ => false

end Json

end CSharpLayout
