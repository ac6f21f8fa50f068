import CSharpLayout.Spelling

/-! Classes of names and roles of punctuation. -/

namespace CSharpLayout

inductive TokenClass where
  | text
  | keyword
  | operator
  | punctuation
  | brace
  | number
  | string
  | char
  | comment
  | directive
  | label
  | type
  | namespaceName
  | method
  | field
  | property
  | event
  | localVariable
  | parameter
  | typeParameter
  | enumMember
  deriving DecidableEq, Repr

instance : Spelled TokenClass where
  all := [.text, .keyword, .operator, .punctuation, .brace, .number, .string, .char, .comment,
    .directive, .label, .type, .namespaceName, .method, .field, .property, .event, .localVariable,
    .parameter, .typeParameter, .enumMember]
  spelling
    | .text => "text"
    | .keyword => "keyword"
    | .operator => "operator"
    | .punctuation => "punctuation"
    | .brace => "brace"
    | .number => "number"
    | .string => "string"
    | .char => "char"
    | .comment => "comment"
    | .directive => "directive"
    | .label => "label"
    | .type => "type"
    | .namespaceName => "namespace"
    | .method => "method"
    | .field => "field"
    | .property => "property"
    | .event => "event"
    | .localVariable => "local"
    | .parameter => "parameter"
    | .typeParameter => "typeParameter"
    | .enumMember => "enumMember"

inductive TokenRole where
  | comma
  | semicolon
  | colon
  | dot
  | doubleColon
  | arrow
  | openParen
  | closeParen
  | openBracket
  | closeBracket
  | openBrace
  | closeBrace
  | openChevron
  | closeChevron
  | nullable
  | pointer
  | operator
  deriving DecidableEq, Repr

instance : Spelled TokenRole where
  all := [.comma, .semicolon, .colon, .dot, .doubleColon, .arrow, .openParen, .closeParen,
    .openBracket, .closeBracket, .openBrace, .closeBrace, .openChevron, .closeChevron, .nullable,
    .pointer, .operator]
  spelling
    | .comma => "Comma"
    | .semicolon => "Semicolon"
    | .colon => "Colon"
    | .dot => "Dot"
    | .doubleColon => "DoubleColon"
    | .arrow => "Arrow"
    | .openParen => "OpenParen"
    | .closeParen => "CloseParen"
    | .openBracket => "OpenBracket"
    | .closeBracket => "CloseBracket"
    | .openBrace => "OpenBrace"
    | .closeBrace => "CloseBrace"
    | .openChevron => "OpenChevron"
    | .closeChevron => "CloseChevron"
    | .nullable => "Nullable"
    | .pointer => "Pointer"
    | .operator => "Operator"

def TokenRole.tokenClass : TokenRole → TokenClass
  | .openBrace => .brace
  | .closeBrace => .brace
  | .operator => .operator
  | .arrow => .operator
  | _ => .punctuation

end CSharpLayout
