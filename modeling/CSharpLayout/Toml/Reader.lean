import CSharpLayout.Toml.Text
import CSharpLayout.Toml.Value

/-! The reader of TOML files: statements, one a line, and the values in them. -/

namespace CSharpLayout

namespace Toml

def isWordChar (c : Char) : Bool := isBareKeyChar c || c = '+' || c = '.' || c = ':'

def word? (word : List Char) : Option Value :=
  match String.ofList word with
  | "true" => some (.bool true)
  | "false" => some (.bool false)
  | _ => (integer? word).map .integer

mutual

def readValue? : Nat → List Char → Option (Value × List Char)
  | 0, _ => none
  | fuel + 1, text =>
      match skipBlank text with
      | '[' :: rest => (readItems? fuel rest).map fun (items, after) => (.array items, after)
      | '\x7b' :: rest =>
          (readEntries? fuel [] rest).map fun (entries, after) => (.table .braces entries, after)
      | text =>
          match readString? text with
          | some (body, after) => some (.string (String.ofList body), after)
          | none =>
              (word? (text.takeWhile isWordChar)).map fun value =>
                (value, text.dropWhile isWordChar)

def readItems? : Nat → List Char → Option (List Value × List Char)
  | 0, _ => none
  | fuel + 1, text =>
      match skipLines? (text.length + 1) text with
      | none => none
      | some (']' :: rest) => some ([], rest)
      | some text =>
          match readValue? fuel text with
          | none => none
          | some (item, rest) =>
              match skipLines? (rest.length + 1) rest with
              | some (']' :: rest) => some ([item], rest)
              | some (',' :: rest) =>
                  (readItems? fuel rest).map fun (items, after) => (item :: items, after)
              | _ => none

def readEntries? : Nat → Entries → List Char → Option (Entries × List Char)
  | 0, _, _ => none
  | fuel + 1, entries, text =>
      match skipLines? (text.length + 1) text with
      | none => none
      | some ('\x7d' :: rest) => some (entries, rest)
      | some text =>
          match readKey? (text.length + 1) text with
          | some (path, '=' :: rest) =>
              match readValue? fuel rest with
              | none => none
              | some (value, rest) =>
                  match Entries.insert? value path entries, skipLines? (rest.length + 1) rest with
                  | some entries, some ('\x7d' :: rest) => some (entries, rest)
                  | some entries, some (',' :: rest) => readEntries? fuel entries rest
                  | _, _ => none
          | _ => none

end

def readStatement? (text : List Char) : Option (Statement × List Char) :=
  let fuel := text.length + 1
  match text with
  | '[' :: '[' :: rest =>
      match readKey? fuel rest with
      | some (path, ']' :: ']' :: rest) =>
          (endOfLine? rest).map fun after => (.item path, after)
      | _ => none
  | '[' :: rest =>
      match readKey? fuel rest with
      | some (path, ']' :: rest) => (endOfLine? rest).map fun after => (.header path, after)
      | _ => none
  | _ =>
      match readKey? fuel text with
      | some (path, '=' :: rest) =>
          match readValue? (2 * fuel) rest with
          | some (value, rest) => (endOfLine? rest).map fun after => (.entry path value, after)
          | none => none
      | _ => none

def readStatements? : Nat → List Char → Option (List Statement)
  | 0, _ => none
  | fuel + 1, text =>
      match skipLines? (text.length + 1) text with
      | none => none
      | some [] => some []
      | some text =>
          match readStatement? text with
          | none => none
          | some (statement, rest) => (readStatements? fuel rest).map (statement :: ·)

def parse? (text : String) : Option Entries :=
  let chars := match text.toList with
    | '\ufeff' :: rest => rest
    | chars => chars
  (readStatements? (chars.length + 1) chars).bind build?

end Toml

end CSharpLayout
