/-! Escapes inside string and character literals. Control characters and every white space but the plain
space are escaped, so the escaped text stays on one line. -/

namespace CSharpLayout

namespace Text

def isControl (c : Char) : Bool :=
  c.toNat < 0x20 || (0x7F ≤ c.toNat && c.toNat < 0xA0)

def isBlank (c : Char) : Bool :=
  (0x9 ≤ c.toNat && c.toNat ≤ 0xD) || c.toNat = 0x20 || c.toNat = 0x85 || c.toNat = 0xA0 ||
    c.toNat = 0x1680 || (0x2000 ≤ c.toNat && c.toNat ≤ 0x200A) || c.toNat = 0x2028 ||
    c.toNat = 0x2029 || c.toNat = 0x202F || c.toNat = 0x205F || c.toNat = 0x3000

def hexadecimal (width value : Nat) : List Char :=
  let digits := Nat.toDigits 16 value
  List.replicate (width - digits.length) '0' ++ digits

def codeEscape (c : Char) : List Char :=
  if 0xFFFF < c.toNat then '\\' :: 'U' :: hexadecimal 8 c.toNat
  else '\\' :: 'u' :: hexadecimal 4 c.toNat

def escapeChar (c : Char) : List Char :=
  if c = '\\' then ['\\', '\\']
  else if c = '\x00' then ['\\', '0']
  else if c = '\x07' then ['\\', 'a']
  else if c = '\x08' then ['\\', 'b']
  else if c = '\x0c' then ['\\', 'f']
  else if c = '\n' then ['\\', 'n']
  else if c = '\r' then ['\\', 'r']
  else if c = '\t' then ['\\', 't']
  else if c = '\x0b' then ['\\', 'v']
  else if isControl c || (isBlank c && c ≠ ' ') then codeEscape c
  else [c]

def escapeStringChar (c : Char) : List Char :=
  if c = '"' then ['\\', '"'] else escapeChar c

def escapeString (text : List Char) : List Char := text.flatMap escapeStringChar

def escapeCharBody (c : Char) : List Char :=
  if c = '\x27' then ['\\', '\x27'] else escapeChar c

end Text

end CSharpLayout
