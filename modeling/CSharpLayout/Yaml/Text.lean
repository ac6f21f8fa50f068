/-! Characters of a YAML text with their columns, the gaps between its words, and its scalars. A scalar
has no type of its own; what it stands for depends on what is asked for. -/

namespace CSharpLayout

namespace Yaml

structure Placed where
  column : Nat
  char : Char
  deriving DecidableEq, Repr

abbrev Source := List Placed

def isAllowed (c : Char) : Bool :=
  let n := c.toNat
  n = 0x09 || n = 0x0A || n = 0x0D || (0x20 ≤ n && n ≤ 0x7E) || n = 0x85 ||
    (0xA0 ≤ n && n ≤ 0xFFFD && n ≠ 0xFEFF) || 0x10000 ≤ n

def isBreak (c : Char) : Bool := c = '\n' || c = '\u2028' || c = '\u2029'

def isBlank (c : Char) : Bool := c = ' ' || c = '\t'

def place (column : Nat) : List Char → Source
  | [] => []
  | '\r' :: '\n' :: rest => ⟨column, '\n'⟩ :: place 0 rest
  | c :: rest =>
      if c = '\r' || c = '\u0085' then ⟨column, '\n'⟩ :: place 0 rest
      else if isBreak c then ⟨column, c⟩ :: place 0 rest
      else ⟨column, c⟩ :: place (column + 1) rest

def endsWord : Source → Bool
  | [] => true
  | next :: _ => isBlank next.char || isBreak next.char

def isMark (c : Char) : Source → Bool
  | first :: second :: third :: rest =>
      first.column = 0 && first.char = c && second.char = c && third.char = c && endsWord rest
  | _ => false

def isDocumentMark (source : Source) : Bool := isMark '-' source || isMark '.' source

/-- Skips blanks, comments and line breaks up to the next word, and says whether a line was ended.
`tabs` says whether a tab may stand before the first line break; after one it may only stand between
brackets. -/
def gap (inBrackets tabs comment ended : Bool) : Source → Bool × Source
  | [] => (ended, [])
  | next :: rest =>
      if isBreak next.char then gap inBrackets inBrackets false true rest
      else if comment || next.char = ' ' || (tabs && next.char = '\t') then
        gap inBrackets tabs comment ended rest
      else if next.char = '#' then gap inBrackets tabs true ended rest
      else (ended, next :: rest)

def nextWord (source : Source) : Bool × Source := gap false true false false source

def nextInBrackets (source : Source) : Bool × Source := gap true true false false source

structure White where
  blanks : List Char := []
  breaks : List Char := []

def lineBreaks? (least : Nat) : Source → Option (List Char × Source)
  | [] => some ([], [])
  | next :: rest =>
      if isBreak next.char then
        (lineBreaks? least rest).map fun (breaks, after) => (next.char :: breaks, after)
      else if isBlank next.char then
        if next.char = '\t' && next.column < least then none else lineBreaks? least rest
      else some ([], next :: rest)

def white? (least : Nat) : Source → Option (White × Source)
  | [] => some ({}, [])
  | next :: rest =>
      if isBreak next.char then
        (lineBreaks? least rest).map fun (breaks, after) =>
          ({ breaks := next.char :: breaks }, after)
      else if isBlank next.char then
        (white? least rest).map fun (found, after) =>
          ({ found with blanks := next.char :: found.blanks }, after)
      else some ({}, next :: rest)

/-- What white space between two words of a scalar stands for: one line break is a space, and of more
than one the first is dropped. -/
def White.folded (found : White) : List Char :=
  match found.breaks with
  | [] => found.blanks
  | ['\n'] => [' ']
  | '\n' :: more => more
  | breaks => breaks

def isBracket (c : Char) : Bool := c = '[' || c = ']' || c = '\x7b' || c = '\x7d'

def isIndicator (c : Char) : Bool :=
  [',', '[', ']', '\x7b', '\x7d', '#', '&', '*', '!', '|', '>', '\x27', '"', '%', '@', '\x60'].contains c

def startsPlain (inBrackets : Bool) : Source → Bool
  | [] => false
  | next :: rest =>
      if isBlank next.char || isBreak next.char then false
      else if next.char = '-' then !endsWord rest
      else if next.char = '?' || next.char = ':' then !inBrackets && !endsWord rest
      else !isIndicator next.char

def plainWord? (inBrackets : Bool) : Source → Option (List Char × Source)
  | [] => some ([], [])
  | next :: rest =>
      if isBlank next.char || isBreak next.char then some ([], next :: rest)
      else if next.char = ':' && endsWord rest then some ([], next :: rest)
      else if inBrackets && (next.char = ',' || isBracket next.char) then some ([], next :: rest)
      else if inBrackets && next.char = ':' &&
          rest.head?.any fun after => after.char = ',' || after.char = '?' || isBracket after.char then
        none
      else (plainWord? inBrackets rest).map fun (word, after) => (next.char :: word, after)

/-- A scalar, whether a line ended inside it, whether one ended after it, and the text from the next
word on. -/
structure Scalar where
  text : List Char
  folded : Bool
  ended : Bool
  rest : Source

def plain? (inBrackets : Bool) (least : Nat) : Nat → Source → Option Scalar
  | 0, _ => none
  | fuel + 1, source =>
      match plainWord? inBrackets source with
      | none => none
      | some (word, rest) =>
          match white? least rest with
          | none => none
          | some (found, after) =>
              let ended := !found.breaks.isEmpty
              let stopped : Scalar := ⟨word, false, ended, after⟩
              let goesOn := !word.isEmpty && !endsWord after && !isDocumentMark after &&
                (found.blanks ++ found.breaks).length ≠ 0 &&
                after.head?.all fun next => next.char ≠ '#' && (inBrackets || least ≤ next.column)
              if !goesOn then some stopped
              else
                match plain? inBrackets least fuel after with
                | none => none
                | some later =>
                    if later.text.isEmpty then some stopped
                    else some { later with
                      text := word ++ found.folded ++ later.text
                      folded := ended || later.folded }

def hexDigit? (c : Char) : Option Nat :=
  if '0' ≤ c && c ≤ '9' then some (c.toNat - '0'.toNat)
  else if 'a' ≤ c && c ≤ 'f' then some (c.toNat - 'a'.toNat + 10)
  else if 'A' ≤ c && c ≤ 'F' then some (c.toNat - 'A'.toNat + 10)
  else none

def codePoint? (digits : List Char) : Option Char :=
  (digits.foldlM (fun total c => (hexDigit? c).map (16 * total + ·)) 0).bind fun value =>
    if value.isValidChar then some (Char.ofNat value) else none

def escape? : Char → Option Char
  | '0' => some '\x00'
  | 'a' => some '\x07'
  | 'b' => some '\x08'
  | 't' => some '\t'
  | '\t' => some '\t'
  | 'n' => some '\n'
  | 'v' => some '\x0b'
  | 'f' => some '\x0c'
  | 'r' => some '\r'
  | 'e' => some '\x1b'
  | ' ' => some ' '
  | '"' => some '"'
  | '/' => some '/'
  | '\\' => some '\\'
  | 'N' => some '\u0085'
  | '_' => some '\u00a0'
  | 'L' => some '\u2028'
  | 'P' => some '\u2029'
  | _ => none

def readEscape? : Source → Option (Char × Source)
  | [] => none
  | mark :: rest =>
      let width := match mark.char with
        | 'x' => 2
        | 'u' => 4
        | 'U' => 8
        | _ => 0
      if width = 0 then (escape? mark.char).map fun c => (c, rest)
      else if rest.length < width then none
      else (codePoint? ((rest.take width).map Placed.char)).map fun c => (c, rest.drop width)

def double? : Nat → Source → Option Scalar
  | 0, _ => none
  | fuel + 1, source =>
      match source with
      | [] => none
      | next :: rest =>
          if isDocumentMark source then none
          else if next.char = '"' then some ⟨[], false, false, rest⟩
          else if next.char = '\\' then
            match rest with
            | [] => none
            | mark :: after =>
                if isBreak mark.char then
                  match white? 0 after with
                  | none => none
                  | some (found, after) =>
                      (double? fuel after).map fun later =>
                        { later with text := found.breaks ++ later.text, folded := true }
                else
                  match readEscape? rest with
                  | none => none
                  | some (c, after) =>
                      (double? fuel after).map fun later => { later with text := c :: later.text }
          else if isBlank next.char || isBreak next.char then
            match white? 0 source with
            | none => none
            | some (found, after) =>
                (double? fuel after).map fun later =>
                  { later with
                    text := found.folded ++ later.text
                    folded := !found.breaks.isEmpty || later.folded }
          else (double? fuel rest).map fun later => { later with text := next.char :: later.text }

def single? : Nat → Source → Option Scalar
  | 0, _ => none
  | fuel + 1, source =>
      match source with
      | [] => none
      | next :: rest =>
          if isDocumentMark source then none
          else if next.char = '\x27' then
            match rest with
            | ⟨_, '\x27'⟩ :: after =>
                (single? fuel after).map fun later => { later with text := '\x27' :: later.text }
            | _ => some ⟨[], false, false, rest⟩
          else if isBlank next.char || isBreak next.char then
            match white? 0 source with
            | none => none
            | some (found, after) =>
                (single? fuel after).map fun later =>
                  { later with
                    text := found.folded ++ later.text
                    folded := !found.breaks.isEmpty || later.folded }
          else (single? fuel rest).map fun later => { later with text := next.char :: later.text }

end Yaml

end CSharpLayout
