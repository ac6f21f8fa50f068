import CSharpLayout.Json.Number

/-! The reader of JSON text. It is strict: no comments, no trailing commas, no raw control characters in
strings, and nothing but white space after the value. What it can pass over but not represent is
refused in its place. -/

namespace CSharpLayout

namespace Json

def isSpace (c : Char) : Bool := c = ' ' || c = '\t' || c = '\n' || c = '\r'

def skipSpace (text : List Char) : List Char := text.dropWhile isSpace

def hexDigit? (c : Char) : Option Nat :=
  if '0' ≤ c && c ≤ '9' then some (c.toNat - '0'.toNat)
  else if 'a' ≤ c && c ≤ 'f' then some (c.toNat - 'a'.toNat + 10)
  else if 'A' ≤ c && c ≤ 'F' then some (c.toNat - 'A'.toNat + 10)
  else none

def codeUnit? (a b c d : Char) : Option Nat := do
  let high ← hexDigit? a
  let second ← hexDigit? b
  let third ← hexDigit? c
  let low ← hexDigit? d
  return ((high * 16 + second) * 16 + third) * 16 + low

def simpleEscape? : Char → Option Char
  | '"' => some '"'
  | '\\' => some '\\'
  | '/' => some '/'
  | 'b' => some '\x08'
  | 'f' => some '\x0c'
  | 'n' => some '\n'
  | 'r' => some '\r'
  | 't' => some '\t'
  | _ => none

def pairedChar? (high low : Nat) : Option Char :=
  if 0xD800 ≤ high && high < 0xDC00 && 0xDC00 ≤ low && low < 0xE000 then
    some (Char.ofNat (0x10000 + (high - 0xD800) * 0x400 + (low - 0xDC00)))
  else none

def withChar (c : Char) : Option (List Char) × List Char → Option (List Char) × List Char :=
  fun (body, after) => (body.map (c :: ·), after)

def withUnit (unit : Nat) : Option (List Char) × List Char → Option (List Char) × List Char :=
  fun (body, after) =>
    if unit < 0xD800 || 0xE000 ≤ unit then withChar (Char.ofNat unit) (body, after) else (none, after)

/-- The characters of a string up to its closing quote, and the text after that. A string with half a
surrogate pair has an end but no characters. -/
def readString : List Char → Option (Option (List Char) × List Char)
  | [] => none
  | '"' :: rest => some (some [], rest)
  | '\\' :: 'u' :: a :: b :: c :: d :: '\\' :: 'u' :: e :: f :: g :: h :: rest =>
      match codeUnit? a b c d with
      | none => none
      | some unit =>
          match (codeUnit? e f g h).bind (pairedChar? unit) with
          | some char => (readString rest).map (withChar char)
          | none => (readString ('\\' :: 'u' :: e :: f :: g :: h :: rest)).map (withUnit unit)
  | '\\' :: 'u' :: a :: b :: c :: d :: rest =>
      match codeUnit? a b c d with
      | none => none
      | some unit => (readString rest).map (withUnit unit)
  | '\\' :: mark :: rest =>
      match simpleEscape? mark with
      | none => none
      | some char => (readString rest).map (withChar char)
  | c :: rest =>
      if c.toNat < 0x20 || c = '\\' then none else (readString rest).map (withChar c)

def expect? : List Char → List Char → Option (List Char)
  | [], text => some text
  | c :: word, d :: text => if c = d then expect? word text else none
  | _ :: _, [] => none

def ofChars : Option (List Char) → Json
  | none => .refused
  | some body => .string (String.ofList body)

def ofEntries (entries : List (Option (List Char) × Json)) : Json :=
  match entries.mapM fun entry => entry.1.map fun key => (String.ofList key, entry.2) with
  | none => .refused
  | some entries => .object entries

mutual

def readValue : Nat → List Char → Option (Json × List Char)
  | 0, _ => none
  | fuel + 1, text =>
      match skipSpace text with
      | '[' :: rest =>
          match skipSpace rest with
          | ']' :: rest => some (.array [], rest)
          | rest => (readItems fuel rest).map fun (items, after) => (.array items, after)
      | '\x7b' :: rest =>
          match skipSpace rest with
          | '\x7d' :: rest => some (.object [], rest)
          | rest => (readEntries fuel rest).map fun (entries, after) => (ofEntries entries, after)
      | '"' :: rest => (readString rest).map fun (body, after) => (ofChars body, after)
      | 't' :: rest => (expect? ['r', 'u', 'e'] rest).map fun after => (.bool true, after)
      | 'f' :: rest => (expect? ['a', 'l', 's', 'e'] rest).map fun after => (.bool false, after)
      | 'n' :: rest => (expect? ['u', 'l', 'l'] rest).map fun after => (.null, after)
      | rest =>
          (JsonNumber.read? rest).map fun (value, after) => (value.elim .refused .number, after)

def readItems : Nat → List Char → Option (List Json × List Char)
  | 0, _ => none
  | fuel + 1, text =>
      match readValue fuel text with
      | none => none
      | some (item, rest) =>
          match skipSpace rest with
          | ']' :: rest => some ([item], rest)
          | ',' :: rest => (readItems fuel rest).map fun (items, after) => (item :: items, after)
          | _ => none

def readEntries : Nat → List Char → Option (List (Option (List Char) × Json) × List Char)
  | 0, _ => none
  | fuel + 1, text =>
      match skipSpace text with
      | '"' :: rest =>
          match readString rest with
          | none => none
          | some (key, rest) =>
              match skipSpace rest with
              | ':' :: rest =>
                  match readValue fuel rest with
                  | none => none
                  | some (value, rest) =>
                      match skipSpace rest with
                      | '\x7d' :: rest => some ([(key, value)], rest)
                      | ',' :: rest =>
                          (readEntries fuel rest).map fun (entries, after) =>
                            ((key, value) :: entries, after)
                      | _ => none
              | _ => none
      | _ => none

end

def parse? (text : String) : Option Json :=
  let chars := text.toList
  match readValue (2 * chars.length + 1) chars with
  | some (value, rest) => if (skipSpace rest).isEmpty then some value else none
  | none => none

def documentLevels : Nat := 127

def parseDocument? (text : String) : Option Json := (parse? text).map (clip documentLevels)

end Json

end CSharpLayout
