import CSharpLayout.Layout.Plan

/-! How a policy shapes a plan. The plans of one node under two policies hold the same pieces in the same
order; they differ in white space, and in how far parts of them are indented. -/

namespace CSharpLayout

structure Policy.Tighter (tight loose : Policy) : Prop where
  spacing : ∀ site, tight.spacing site = true → loose.spacing site = true
  braces : ∀ site, tight.braces site ≠ .sameLineNoSpace → loose.braces site ≠ .sameLineNoSpace
  betweenMembers : tight.blankLines.betweenMembers ≠ 0 → loose.blankLines.betweenMembers ≠ 0
  afterUsings : tight.blankLines.afterUsings ≠ 0 → loose.blankLines.afterUsings ≠ 0

def TokenRole.closing? : TokenRole → Option TokenRole
  | .openParen => some .closeParen
  | .openBracket => some .closeBracket
  | .openBrace => some .closeBrace
  | .openChevron => some .closeChevron
  | _ => none

def TokenRole.isDelimiter : TokenRole → Bool
  | .openParen => true
  | .closeParen => true
  | .openBracket => true
  | .closeBracket => true
  | .openBrace => true
  | .closeBrace => true
  | .openChevron => true
  | .closeChevron => true
  | _ => false

namespace Piece

def isBlank : Piece → Bool
  | .event .space => true
  | .event .newline => true
  | .gap => true
  | .freshLine => true
  | _ => false

def isFixed : Piece → Bool
  | .event (.token role _) => !role.isDelimiter
  | .event found => found.isToken
  | .gap => false
  | .freshLine => false
  | _ => true

end Piece

namespace Layout

def indentedIf (wanted : Bool) (body : List Piece) : List Piece :=
  if wanted then indent ++ body ++ unindent else body

def outdentedIf (wanted : Bool) (body : List Piece) : List Piece :=
  if wanted then unindent ++ body ++ indent else body

/-- Plans of one part of a node under two policies. Indentation comes in pairs, delimiters close what they
open, and where the first policy is the tighter one the second plan has white space wherever the first
has. -/
inductive Matched (first second : Policy) : List Piece → List Piece → Prop
  | nil : Matched first second [] []
  | append {left right left' right' : List Piece} : Matched first second left right →
      Matched first second left' right' → Matched first second (left ++ left') (right ++ right')
  | fixed {piece : Piece} : piece.isFixed = true → Matched first second [piece] [piece]
  | blank {left right : List Piece} : left.all Piece.isBlank = true → right.all Piece.isBlank = true →
      (first.Tighter second → left ≠ [] → right ≠ []) → Matched first second left right
  | indented (deep deep' : Bool) {left right : List Piece} : Matched first second left right →
      Matched first second (indentedIf deep left) (indentedIf deep' right)
  | delimited (opening : TokenRole) {closing : TokenRole} (before after : String) {left right : List Piece} :
      opening.closing? = some closing → Matched first second left right →
      Matched first second (symbol opening before ++ left ++ symbol closing after)
        (symbol opening before ++ right ++ symbol closing after)
  | braced {style style' : BraceStyle} (flat flat' : Bool) {left right : List Piece} :
      (first.Tighter second → style ≠ .sameLineNoSpace → style' ≠ .sameLineNoSpace) →
      Matched first second left right →
      Matched first second (Layout.braced style (outdentedIf flat left))
        (Layout.braced style' (outdentedIf flat' right))

namespace Matched

variable {p q : Policy}

theorem cons {piece : Piece} {left right : List Piece} (fixed : piece.isFixed = true)
    (rest : Matched p q left right) : Matched p q (piece :: left) (piece :: right) :=
  append (.fixed fixed) rest

theorem ite {condition : Prop} [Decidable condition] {left right left' right' : List Piece}
    (holds : condition → Matched p q left right) (fails : ¬condition → Matched p q left' right') :
    Matched p q (if condition then left else left') (if condition then right else right') := by
  by_cases found : condition
  · simpa only [found, if_true] using holds found
  · simpa only [found, if_false] using fails found

theorem word (text : String) : Matched p q (Layout.word text) (Layout.word text) := fixed rfl

theorem symbol {role : TokenRole} (text : String) (plain : role.isDelimiter = false) :
    Matched p q (Layout.symbol role text) (Layout.symbol role text) :=
  fixed (by simp [Piece.isFixed, plain])

theorem event {event : Event} (plain : (Piece.event event).isFixed = true) :
    Matched p q [.event event] [.event event] := fixed plain

theorem space : Matched p q Layout.space Layout.space := blank rfl rfl fun _ found => found

theorem newline : Matched p q Layout.newline Layout.newline := blank rfl rfl fun _ found => found

theorem spaceIf {wanted wanted' : Bool}
    (wider : p.Tighter q → wanted = true → wanted' = true) :
    Matched p q (Layout.spaceIf wanted) (Layout.spaceIf wanted') := by
  refine blank ?_ ?_ ?_
  · cases wanted <;> rfl
  · cases wanted' <;> rfl
  · intro tighter present
    cases wanted with
    | false => exact absurd rfl present
    | true => simp [wider tighter rfl, Layout.spaceIf, Layout.space]

theorem spaceAt (site : SpaceSite) :
    Matched p q (Layout.spaceIf (p.spacing site)) (Layout.spaceIf (q.spacing site)) :=
  spaceIf fun tighter => tighter.spacing site

theorem spaceWhen (wanted : Bool) :
    Matched p q (Layout.spaceIf wanted) (Layout.spaceIf wanted) := spaceIf fun _ found => found

theorem newlines {count count' : Nat} (wider : p.Tighter q → count ≠ 0 → count' ≠ 0) :
    Matched p q (Layout.newlines count) (Layout.newlines count') := by
  refine blank ?_ ?_ ?_
  · simp [Layout.newlines, Piece.isBlank]
  · simp [Layout.newlines, Piece.isBlank]
  · intro tighter present
    have some := wider tighter (by simpa [Layout.newlines] using present)
    simpa [Layout.newlines] using some

theorem fault (problem : Problem) : Matched p q (Layout.fault problem) (Layout.fault problem) := fixed rfl

theorem visit (node : Node) : Matched p q (Layout.visit node) (Layout.visit node) := fixed rfl

theorem visitAll (nodes : List Node) : Matched p q (Layout.visitAll nodes) (Layout.visitAll nodes) := by
  induction nodes with
  | nil => exact nil
  | cons node rest ih => exact cons rfl ih

theorem hide (nodes : List Node) : Matched p q (Layout.hide nodes) (Layout.hide nodes) := by
  induction nodes with
  | nil => exact nil
  | cons node rest ih => exact cons rfl ih

theorem identifier (frames : Frames) (name : Identifier) (tokenClass : TokenClass) :
    Matched p q (Layout.identifier frames name tokenClass) (Layout.identifier frames name tokenClass) :=
  ite (fun _ => fault _) fun _ => fixed rfl

theorem rawIdentifier (text : String) (tokenClass : TokenClass) :
    Matched p q (Layout.rawIdentifier text tokenClass) (Layout.rawIdentifier text tokenClass) := fixed rfl

theorem modifiers (listed : List Modifier) :
    Matched p q (Layout.modifiers listed) (Layout.modifiers listed) := by
  induction listed with
  | nil => exact nil
  | cons modifier rest ih => exact append (word _) ih

theorem comma (tight : Bool) : Matched p q (Layout.comma p tight) (Layout.comma q tight) := by
  refine append (append (spaceAt _) (symbol _ rfl)) (spaceIf ?_)
  intro tighter wanted
  rw [Bool.and_eq_true] at wanted ⊢
  exact ⟨wanted.1, tighter.spacing _ wanted.2⟩

theorem semicolon (frames : Frames) :
    Matched p q (Layout.semicolon frames) (Layout.semicolon frames) :=
  ite (fun _ => nil) fun _ => append (symbol _ rfl) newline

theorem commaSeparated (nodes : List Node) :
    Matched p q (Layout.commaSeparated p nodes) (Layout.commaSeparated q nodes) := by
  induction nodes with
  | nil => exact nil
  | cons node rest ih =>
      cases rest with
      | nil => exact visit node
      | cons next rest => exact append (append (visit node) (comma false)) ih

theorem enclosed {opening closing : TokenRole} (before after : String) {within within' : Bool}
    {left right : List Piece} (closes : opening.closing? = some closing)
    (wider : p.Tighter q → within = true → within' = true) (body : Matched p q left right) :
    Matched p q
      (Layout.enclosed (Layout.symbol opening before) (Layout.symbol closing after) within left)
      (Layout.enclosed (Layout.symbol opening before) (Layout.symbol closing after) within' right) := by
  have inside := delimited opening before after closes (append (append (spaceIf wider) body) (spaceIf wider))
  simpa only [Layout.enclosed, List.append_assoc] using inside

theorem inParentheses {within within' : Bool} {left right : List Piece}
    (wider : p.Tighter q → within = true → within' = true) (body : Matched p q left right) :
    Matched p q (Layout.inParentheses within left) (Layout.inParentheses within' right) :=
  enclosed _ _ rfl wider body

theorem inBrackets {within within' : Bool} {left right : List Piece}
    (wider : p.Tighter q → within = true → within' = true) (body : Matched p q left right) :
    Matched p q (Layout.inBrackets within left) (Layout.inBrackets within' right) :=
  enclosed _ _ rfl wider body

theorem parenthesesAt (site : SpaceSite) {left right : List Piece} (body : Matched p q left right) :
    Matched p q (Layout.inParentheses (p.spacing site) left)
      (Layout.inParentheses (q.spacing site) right) :=
  inParentheses (fun tighter => tighter.spacing site) body

theorem bracketsAt (site : SpaceSite) {left right : List Piece} (body : Matched p q left right) :
    Matched p q (Layout.inBrackets (p.spacing site) left) (Layout.inBrackets (q.spacing site) right) :=
  inBrackets (fun tighter => tighter.spacing site) body

theorem parenthesizedAt (site : SpaceSite) (nodes : List Node) :
    Matched p q (Layout.parenthesizedList p (p.spacing site) nodes)
      (Layout.parenthesizedList q (q.spacing site) nodes) := by
  refine inParentheses ?_ (commaSeparated nodes)
  intro tighter wanted
  rw [Bool.and_eq_true] at wanted ⊢
  exact ⟨tighter.spacing site wanted.1, wanted.2⟩

theorem bracketedAt (site : SpaceSite) (nodes : List Node) :
    Matched p q (Layout.bracketedList p (p.spacing site) nodes)
      (Layout.bracketedList q (q.spacing site) nodes) := by
  refine inBrackets ?_ (commaSeparated nodes)
  intro tighter wanted
  rw [Bool.and_eq_true] at wanted ⊢
  exact ⟨tighter.spacing site wanted.1, wanted.2⟩

theorem chevronList (nodes : List Node) :
    Matched p q (Layout.chevronList p nodes) (Layout.chevronList q nodes) :=
  ite (fun _ => nil) fun _ => delimited _ _ _ rfl (commaSeparated nodes)

theorem bracedAt (site : BraceSite) {left right : List Piece} (body : Matched p q left right) :
    Matched p q (Layout.braced (p.braces site) left) (Layout.braced (q.braces site) right) :=
  braced false false (fun tighter => tighter.braces site) body

end Matched

end Layout

end CSharpLayout
