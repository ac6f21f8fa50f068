import CSharpLayout.Spelling

/-! Comments and preprocessor directives. -/

namespace CSharpLayout

inductive CommentKind where
  | singleLine
  | multiLine
  | documentation
  | multiLineDocumentation
  | inactiveCode
  deriving DecidableEq, Repr

instance : Spelled CommentKind where
  all := [.singleLine, .multiLine, .documentation, .multiLineDocumentation, .inactiveCode]
  spelling
    | .singleLine => "SingleLine"
    | .multiLine => "MultiLine"
    | .documentation => "Documentation"
    | .multiLineDocumentation => "MultiLineDocumentation"
    | .inactiveCode => "InactiveCode"

def CommentKind.endsLine : CommentKind → Bool
  | .singleLine => true
  | .documentation => true
  | _ => false

structure Comment where
  kind : CommentKind
  content : String
  deriving DecidableEq, Repr

inductive DirectiveKind where
  | define
  | undef
  | ifSymbol
  | elifSymbol
  | elseBranch
  | endif
  | region
  | endregion
  | pragma
  | warning
  | error
  | line
  deriving DecidableEq, Repr

def DirectiveKind.keyword : DirectiveKind → String
  | .define => "define"
  | .undef => "undef"
  | .ifSymbol => "if"
  | .elifSymbol => "elif"
  | .elseBranch => "else"
  | .endif => "endif"
  | .region => "region"
  | .endregion => "endregion"
  | .pragma => "pragma"
  | .warning => "warning"
  | .error => "error"
  | .line => "line"

instance : Spelled DirectiveKind where
  all := [.define, .undef, .ifSymbol, .elifSymbol, .elseBranch, .endif, .region, .endregion,
    .pragma, .warning, .error, .line]
  spelling := DirectiveKind.keyword

structure Directive where
  kind : DirectiveKind
  argument : Option String
  deriving DecidableEq, Repr

end CSharpLayout
