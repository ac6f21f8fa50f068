/-! Enumerations whose values have fixed spellings. -/

namespace CSharpLayout

/-- A finite type whose values are listed in `all` and written as `spelling`. -/
class Spelled (α : Type) where
  all : List α
  spelling : α → String

namespace Spelled

variable {α : Type} [Spelled α]

def ofSpelling? (text : String) : Option α :=
  (all : List α).find? fun value => spelling value == text

def spellings (α : Type) [Spelled α] : List String := (all : List α).map spelling

end Spelled

end CSharpLayout
