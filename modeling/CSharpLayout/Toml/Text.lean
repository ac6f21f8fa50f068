import CSharpLayout.Number.Decimal

/-! The words of TOML: blanks, comments, strings, keys and integers. -/

namespace CSharpLayout

namespace Toml

def isBlank (c : Char) : Bool := c = ' ' || c = '\t'

def skipBlank (text : List Char) : List Char := text.dropWhile isBlank

def isControl (c : Char) : Bool := (c.toNat < 0x20 && c ≠ '\t') || c = '\x7f'

def lineBreak? : List Char → Option (List Char)
  | '\n' :: rest => some rest
  | '\r' :: '\n' :: rest => some rest
  | _ => none

def skipComment? : List Char → Option (List Char)
  | [] => some []
  | '\n' :: rest => some ('\n' :: rest)
  | '\r' :: '\n' :: rest => some ('\r' :: '\n' :: rest)
  | c :: rest => if isControl c then none else skipComment? rest

def skipToBreak? (text : List Char) : Option (List Char) :=
  match skipBlank text with
  | '#' :: rest => skipComment? rest
  | text => some text

def endOfLine? (text : List Char) : Option (List Char) :=
  match skipToBreak? text with
  | none => none
  | some [] => some []
  | some text => lineBreak? text

def skipLines? : Nat → List Char → Option (List Char)
  | 0, _ => none
  | fuel + 1, text =>
      match skipToBreak? text with
      | none => none
      | some text =>
          match lineBreak? text with
          | none => some text
          | some rest => skipLines? fuel rest

def digit? (base : Nat) (c : Char) : Option Nat :=
  let value :=
    if '0' ≤ c && c ≤ '9' then c.toNat - '0'.toNat
    else if 'a' ≤ c && c ≤ 'f' then c.toNat - 'a'.toNat + 10
    else if 'A' ≤ c && c ≤ 'F' then c.toNat - 'A'.toNat + 10
    else base
  if value < base then some value else none

def natural? (base : Nat) (digits : List Char) : Option Nat :=
  if digits.isEmpty then none
  else digits.foldlM (fun total c => (digit? base c).map (base * total + ·)) 0

def codePoint? (digits : List Char) : Option Char :=
  (natural? 16 digits).bind fun value =>
    if value.isValidChar then some (Char.ofNat value) else none

def escape? : Char → Option Char
  | 'b' => some '\x08'
  | 't' => some '\t'
  | 'n' => some '\n'
  | 'f' => some '\x0c'
  | 'r' => some '\r'
  | 'e' => some '\x1b'
  | '"' => some '"'
  | '\\' => some '\\'
  | _ => none

def readEscape? : List Char → Option (Char × List Char)
  | [] => none
  | mark :: rest =>
      let width := match mark with
        | 'x' => 2
        | 'u' => 4
        | 'U' => 8
        | _ => 0
      if width = 0 then (escape? mark).map fun c => (c, rest)
      else if rest.length < width then none
      else (codePoint? (rest.take width)).map fun c => (c, rest.drop width)

def readBasic? : Nat → List Char → Option (List Char × List Char)
  | 0, _ => none
  | fuel + 1, text =>
      match text with
      | [] => none
      | '"' :: rest => some ([], rest)
      | '\\' :: rest =>
          match readEscape? rest with
          | none => none
          | some (c, rest) => (readBasic? fuel rest).map fun (body, after) => (c :: body, after)
      | c :: rest =>
          if isControl c then none
          else (readBasic? fuel rest).map fun (body, after) => (c :: body, after)

def readLiteral? : List Char → Option (List Char × List Char)
  | [] => none
  | '\x27' :: rest => some ([], rest)
  | c :: rest =>
      if isControl c then none
      else (readLiteral? rest).map fun (body, after) => (c :: body, after)

def skipWhite : List Char → List Char
  | '\r' :: '\n' :: rest => skipWhite rest
  | c :: rest => if isBlank c || c = '\n' then skipWhite rest else c :: rest
  | [] => []

def dropFirstBreak (text : List Char) : List Char := (lineBreak? text).getD text

/-- A text between three double quotes. A backslash at the end of a line takes away everything up to the
next word, and up to two quotes may stand before the closing ones. -/
def readLongBasic? : Nat → List Char → Option (List Char × List Char)
  | 0, _ => none
  | fuel + 1, text =>
      match text with
      | [] => none
      | '"' :: '"' :: '"' :: '"' :: '"' :: rest => some (['"', '"'], rest)
      | '"' :: '"' :: '"' :: '"' :: rest => some (['"'], rest)
      | '"' :: '"' :: '"' :: rest => some ([], rest)
      | '\\' :: rest =>
          match lineBreak? (skipBlank rest) with
          | some rest => readLongBasic? fuel (skipWhite rest)
          | none =>
              match readEscape? rest with
              | none => none
              | some (c, rest) =>
                  (readLongBasic? fuel rest).map fun (body, after) => (c :: body, after)
      | '\r' :: '\n' :: rest =>
          (readLongBasic? fuel rest).map fun (body, after) => ('\r' :: '\n' :: body, after)
      | c :: rest =>
          if isControl c && c ≠ '\n' then none
          else (readLongBasic? fuel rest).map fun (body, after) => (c :: body, after)

def readLongLiteral? : List Char → Option (List Char × List Char)
  | [] => none
  | '\x27' :: '\x27' :: '\x27' :: '\x27' :: '\x27' :: rest => some (['\x27', '\x27'], rest)
  | '\x27' :: '\x27' :: '\x27' :: '\x27' :: rest => some (['\x27'], rest)
  | '\x27' :: '\x27' :: '\x27' :: rest => some ([], rest)
  | '\r' :: '\n' :: rest =>
      (readLongLiteral? rest).map fun (body, after) => ('\r' :: '\n' :: body, after)
  | c :: rest =>
      if isControl c && c ≠ '\n' then none
      else (readLongLiteral? rest).map fun (body, after) => (c :: body, after)

def readString? (text : List Char) : Option (List Char × List Char) :=
  match text with
  | '"' :: '"' :: '"' :: rest => readLongBasic? (rest.length + 1) (dropFirstBreak rest)
  | '"' :: rest => readBasic? (rest.length + 1) rest
  | '\x27' :: '\x27' :: '\x27' :: rest => readLongLiteral? (dropFirstBreak rest)
  | '\x27' :: rest => readLiteral? rest
  | _ => none

def isBareKeyChar (c : Char) : Bool := c.isAlphanum || c = '_' || c = '-'

def readKeyPart? (text : List Char) : Option (List Char × List Char) :=
  match text with
  | '"' :: rest => readBasic? (rest.length + 1) rest
  | '\x27' :: rest => readLiteral? rest
  | _ =>
      let name := text.takeWhile isBareKeyChar
      if name.isEmpty then none else some (name, text.dropWhile isBareKeyChar)

def readKey? : Nat → List Char → Option (List String × List Char)
  | 0, _ => none
  | fuel + 1, text =>
      match readKeyPart? (skipBlank text) with
      | none => none
      | some (part, rest) =>
          match skipBlank rest with
          | '.' :: rest =>
              (readKey? fuel rest).map fun (parts, after) => (String.ofList part :: parts, after)
          | rest => some ([String.ofList part], rest)

def ungroup? (digits : List Char) : Option (List Char) :=
  let groups := (String.ofList digits).splitOn "_"
  if groups.any String.isEmpty then none else some (groups.flatMap String.toList)

def decimal? : List Char → Option Nat
  | '0' :: _ :: _ => none
  | digits => (ungroup? digits).bind (natural? 10)

def integer? : List Char → Option Int
  | '0' :: 'x' :: digits => ((ungroup? digits).bind (natural? 16)).map Int.ofNat
  | '0' :: 'o' :: digits => ((ungroup? digits).bind (natural? 8)).map Int.ofNat
  | '0' :: 'b' :: digits => ((ungroup? digits).bind (natural? 2)).map Int.ofNat
  | '+' :: digits => (decimal? digits).map Int.ofNat
  | '-' :: digits => (decimal? digits).map fun value => -Int.ofNat value
  | digits => (decimal? digits).map Int.ofNat

end Toml

end CSharpLayout
