import CSharpLayout.Syntax.Token

/-! Names and declaration modifiers. -/

namespace CSharpLayout

/-- A name. `verbatim` records a spelling with a leading `@`. -/
structure Identifier where
  name : String
  verbatim : Bool := false
  tokenClass : Option TokenClass := none
  deriving DecidableEq, Repr

inductive Modifier where
  | new
  | publicAccess
  | protectedAccess
  | privateAccess
  | internalAccess
  | abstractMember
  | virtualMember
  | sealedMember
  | staticMember
  | overrideMember
  | readonly
  | volatile
  | external
  | partialDeclaration
  | const
  | async
  | unsafeCode
  | fixed
  deriving DecidableEq, Repr

def Modifier.keyword : Modifier → String
  | .new => "new"
  | .publicAccess => "public"
  | .protectedAccess => "protected"
  | .privateAccess => "private"
  | .internalAccess => "internal"
  | .abstractMember => "abstract"
  | .virtualMember => "virtual"
  | .sealedMember => "sealed"
  | .staticMember => "static"
  | .overrideMember => "override"
  | .readonly => "readonly"
  | .volatile => "volatile"
  | .external => "extern"
  | .partialDeclaration => "partial"
  | .const => "const"
  | .async => "async"
  | .unsafeCode => "unsafe"
  | .fixed => "fixed"

instance : Spelled Modifier where
  all := [.new, .publicAccess, .protectedAccess, .privateAccess, .internalAccess, .abstractMember,
    .virtualMember, .sealedMember, .staticMember, .overrideMember, .readonly, .volatile, .external,
    .partialDeclaration, .const, .async, .unsafeCode, .fixed]
  spelling := Modifier.keyword

end CSharpLayout
