import Mathlib.Algebra.Group.Nat.Defs
import CSharpLayout.Json.Reader
import CSharpLayout.Proofs.Exactness
import CSharpLayout.Proofs.Lexeme

/-! Literals read back from their text. The body of a quoted literal is read character by character: an
escape of one letter, `\u` with four or `\U` with eight hexadecimal digits, or a character that stands for
itself. Each character is written in one of three ways, and none of them takes in anything of what stands
behind it. -/

namespace CSharpLayout

namespace Text

def isLineTerminator (c : Char) : Bool :=
  c = '\r' || c = '\n' || c = '\u0085' || c = '\u2028' || c = '\u2029'

def escape? : Char → Option Char
  | '\x27' => some '\x27'
  | '"' => some '"'
  | '\\' => some '\\'
  | '0' => some '\x00'
  | 'a' => some '\x07'
  | 'b' => some '\x08'
  | 'f' => some '\x0c'
  | 'n' => some '\n'
  | 'r' => some '\r'
  | 't' => some '\t'
  | 'v' => some '\x0b'
  | _ => none

def scalar? (value : Nat) : Option Char := if value.isValidChar then some (Char.ofNat value) else none

/-- Where a reader stands in the body of a literal: between two characters, behind a backslash, or in a code
point of which one digit and then `later` more are still to come. -/
inductive Reading where
  | plain
  | escape
  | digits (later value : Nat)

/-- The characters that the body of a literal stands for. The quote and what ends a line have to be
escaped. -/
def unescape (quote : Char) : Reading → List Char → Option (List Char)
  | .plain, [] => some []
  | .escape, [] => none
  | .digits _ _, [] => none
  | .plain, c :: rest =>
      if c = '\\' then unescape quote .escape rest
      else if c = quote || isLineTerminator c then none
      else (unescape quote .plain rest).map (c :: ·)
  | .escape, c :: rest =>
      if c = 'u' then unescape quote (.digits 3 0) rest
      else if c = 'U' then unescape quote (.digits 7 0) rest
      else (escape? c).bind fun meant => (unescape quote .plain rest).map (meant :: ·)
  | .digits 0 value, c :: rest =>
      ((Json.hexDigit? c).bind fun digit => scalar? (16 * value + digit)).bind fun meant =>
        (unescape quote .plain rest).map (meant :: ·)
  | .digits (later + 1) value, c :: rest =>
      (Json.hexDigit? c).bind fun digit => unescape quote (.digits later (16 * value + digit)) rest

def hexValue? : Nat → List Char → Option Nat
  | value, [] => some value
  | value, c :: rest => (Json.hexDigit? c).bind fun digit => hexValue? (16 * value + digit) rest

theorem hexValue?_append (value : Nat) (left right : List Char) :
    hexValue? value (left ++ right) = (hexValue? value left).bind fun high => hexValue? high right := by
  induction left generalizing value with
  | nil => rfl
  | cons c rest ih =>
      rw [List.cons_append, hexValue?, hexValue?, Option.bind_assoc]
      simp only [ih]

theorem hexDigit?_digitChar {digit : Nat} (small : digit < 16) :
    Json.hexDigit? digit.digitChar = some digit := by
  have every : ∀ digit : Fin 16, Json.hexDigit? digit.val.digitChar = some digit.val := by decide
  exact every ⟨digit, small⟩

theorem hexValue?_toDigits (value : Nat) : hexValue? 0 (Nat.toDigits 16 value) = some value := by
  induction value using Nat.strongRecOn with
  | ind value ih =>
      rw [Nat.toDigits_eq_if (by omega)]
      by_cases small : value < 16
      · rw [if_pos small, hexValue?, hexDigit?_digitChar small]
        simp [hexValue?]
      · have last : value % 16 < 16 := Nat.mod_lt _ (by omega)
        rw [if_neg small, hexValue?_append, ih (value / 16) (by omega)]
        simp only [Option.bind_some, hexValue?, hexDigit?_digitChar last]
        congr 1
        omega

theorem hexValue?_zeros (count : Nat) (digits : List Char) :
    hexValue? 0 (List.replicate count '0' ++ digits) = hexValue? 0 digits := by
  induction count with
  | zero => rfl
  | succ count ih => exact ih

theorem hexValue?_hexadecimal (width value : Nat) : hexValue? 0 (hexadecimal width value) = some value := by
  rw [hexadecimal, hexValue?_zeros, hexValue?_toDigits]

theorem length_hexadecimal {width value : Nat} (some : 0 < width) (fits : value < 16 ^ width) :
    (hexadecimal width value).length = width := by
  have short : (Nat.toDigits 16 value).length ≤ width := (Nat.length_toDigits_le_iff (by omega) some).mpr fits
  simp only [hexadecimal, List.length_append, List.length_replicate]
  omega

theorem isSome_of_hexValue? {digits : List Char} {value total : Nat}
    (read : hexValue? value digits = some total) :
    ∀ c ∈ digits, (Json.hexDigit? c).isSome = true := by
  induction digits generalizing value with
  | nil => simp
  | cons c rest ih =>
      obtain ⟨digit, first, later⟩ := Option.bind_eq_some_iff.mp read
      intro d member
      rcases List.mem_cons.mp member with rfl | behind
      · rw [first]
        rfl
      · exact ih later d behind

theorem scalar?_toNat (c : Char) : scalar? c.toNat = some c := by
  have valid : c.toNat.isValidChar := c.valid
  rw [scalar?, if_pos valid, Char.ofNat_toNat]

theorem toNat_lt (c : Char) : c.toNat < 0x110000 := by
  have valid : c.toNat.isValidChar := c.valid
  simp only [Nat.isValidChar] at valid
  omega

/-- The digits of a code point are read to the last and no further. -/
theorem unescape_digits (quote : Char) {later value total : Nat} {digits : List Char}
    (count : digits.length = later + 1) (read : hexValue? value digits = some total) (rest : List Char) :
    unescape quote (.digits later value) (digits ++ rest) =
      (scalar? total).bind fun meant => (unescape quote .plain rest).map (meant :: ·) := by
  induction digits generalizing later value with
  | nil => simp at count
  | cons c digits ih =>
      obtain ⟨digit, first, others⟩ := Option.bind_eq_some_iff.mp read
      cases later with
      | zero =>
          have none : digits = [] := by simpa using count
          subst none
          obtain rfl : 16 * value + digit = total := by simpa [hexValue?] using others
          simp [unescape, first]
      | succ later =>
          rw [List.cons_append, unescape, first]
          exact ih (by simpa using count) others

theorem unescape_hexadecimal (quote c : Char) {later : Nat} (fits : c.toNat < 16 ^ (later + 1))
    (rest : List Char) :
    unescape quote (.digits later 0) (hexadecimal (later + 1) c.toNat ++ rest) =
      (unescape quote .plain rest).map (c :: ·) := by
  rw [unescape_digits quote (length_hexadecimal (by omega) fits) (hexValue?_hexadecimal _ _), scalar?_toNat]
  rfl

theorem unescape_codeEscape (quote c : Char) (rest : List Char) :
    unescape quote .plain (codeEscape c ++ rest) = (unescape quote .plain rest).map (c :: ·) := by
  have bound := toNat_lt c
  rw [codeEscape]
  split
  · exact unescape_hexadecimal quote c (by omega) rest
  · exact unescape_hexadecimal quote c (by omega) rest

inductive Quoted (quote c : Char) : List Char → Prop
  | letter {mark : Char} : escape? mark = some c → Quoted quote c ['\\', mark]
  | code : Quoted quote c (codeEscape c)
  | plain : c ≠ '\\' → c ≠ quote → isControl c = false → isLineTerminator c = false → Quoted quote c [c]

namespace Quoted

variable {quote c : Char} {body : List Char}

theorem letterOr {mark meant : Char} (stands : escape? mark = some meant)
    (otherwise : c ≠ meant → Quoted quote c body) :
    Quoted quote c (if c = meant then ['\\', mark] else body) := by
  split
  next found => exact .letter (found ▸ stands)
  next other => exact otherwise other

/-- Every character that ends a line is a control character or white space. -/
theorem codeOr (notBackslash : c ≠ '\\') (notQuote : c ≠ quote) :
    Quoted quote c (if isControl c || (isBlank c && c ≠ ' ') then codeEscape c else [c]) := by
  split
  next => exact .code
  next safe =>
    refine .plain notBackslash notQuote (by cases h : isControl c <;> simp_all) ?_
    cases ends : isLineTerminator c with
    | false => rfl
    | true =>
        simp only [isLineTerminator, Bool.or_eq_true, decide_eq_true_eq] at ends
        refine absurd ?_ safe
        rcases ends with (((rfl | rfl) | rfl) | rfl) | rfl <;> decide

theorem escapeChar (notQuote : c ≠ quote) : Quoted quote c (escapeChar c) :=
  letterOr rfl fun notBackslash => letterOr rfl fun _ => letterOr rfl fun _ => letterOr rfl fun _ =>
    letterOr rfl fun _ => letterOr rfl fun _ => letterOr rfl fun _ => letterOr rfl fun _ =>
      letterOr rfl fun _ =>
    codeOr notBackslash notQuote

theorem escapeStringChar (c : Char) : Quoted '"' c (escapeStringChar c) := letterOr rfl Quoted.escapeChar

theorem escapeCharBody (c : Char) : Quoted '\x27' c (escapeCharBody c) := letterOr rfl Quoted.escapeChar

theorem read (quoted : Quoted quote c body) (rest : List Char) :
    unescape quote .plain (body ++ rest) = (unescape quote .plain rest).map (c :: ·) := by
  cases quoted with
  | @letter mark stands =>
      have short : mark ≠ 'u' := by rintro rfl; cases stands
      have long : mark ≠ 'U' := by rintro rfl; cases stands
      simp [unescape, short, long, stands]
  | code => exact unescape_codeEscape quote c rest
  | plain notBackslash notQuote _ notEnd => simp [unescape, notBackslash, notQuote, notEnd]

end Quoted

def isPrintable (c : Char) : Bool := !isControl c && !isLineTerminator c

theorem bounds_of_hexDigit? {c : Char} (digit : (Json.hexDigit? c).isSome = true) :
    0x30 ≤ c.toNat ∧ c.toNat ≤ 0x66 := by
  have between (first last : Char) (low : 0x30 ≤ first.toNat) (high : last.toNat ≤ 0x66)
      (within : (decide (first ≤ c) && decide (c ≤ last)) = true) : 0x30 ≤ c.toNat ∧ c.toNat ≤ 0x66 := by
    simp only [Bool.and_eq_true, decide_eq_true_eq, Char.le_def, UInt32.le_iff_toNat_le] at within
    exact ⟨Nat.le_trans low within.1, Nat.le_trans within.2 high⟩
  unfold Json.hexDigit? at digit
  split at digit
  next within => exact between _ _ (by decide) (by decide) within
  split at digit
  next within => exact between _ _ (by decide) (by decide) within
  split at digit
  next within => exact between _ _ (by decide) (by decide) within
  next => cases digit

theorem isPrintable_of_bounds {c : Char} (low : 0x20 ≤ c.toNat) (high : c.toNat < 0x7F) :
    isPrintable c = true := by
  have notControl : isControl c = false := by simp [isControl]; omega
  have notEnd : isLineTerminator c = false := by
    cases ends : isLineTerminator c with
    | false => rfl
    | true =>
        simp only [isLineTerminator, Bool.or_eq_true, decide_eq_true_eq] at ends
        rcases ends with (((rfl | rfl) | rfl) | rfl) | rfl <;> simp at low high
  rw [isPrintable, notControl, notEnd]
  rfl

theorem isPrintable_of_escape? {mark c : Char} (stands : escape? mark = some c) :
    isPrintable mark = true := by
  unfold escape? at stands
  split at stands
  case h_12 => cases stands
  all_goals rfl

def Reading.lead : Reading → List Char
  | .escape => ['\\']
  | _ => []

theorem isOpen_cons {quote c : Char} (notBackslash : c ≠ '\\') (notQuote : c ≠ quote) (rest : List Char) :
    Lexeme.isOpen quote (c :: rest) = Lexeme.isOpen quote rest := by
  rw [Lexeme.isOpen, if_neg notQuote]
  intro _ _ backslash
  exact absurd backslash notBackslash

theorem isOpen_hexDigit {quote c : Char} (notDigit : Json.hexDigit? quote = none) {digit : Nat}
    (read : Json.hexDigit? c = some digit) (rest : List Char) :
    Lexeme.isOpen quote (c :: rest) = Lexeme.isOpen quote rest := by
  refine isOpen_cons ?_ ?_ rest
  · rintro rfl
    cases read
  · rintro rfl
    rw [notDigit] at read
    cases read

/-- A body that can be read holds no quote but behind a backslash. -/
theorem isOpen_of_unescape {quote : Char} (notDigit : Json.hexDigit? quote = none) {state : Reading}
    {body meant : List Char} (read : unescape quote state body = some meant) :
    Lexeme.isOpen quote (state.lead ++ body) = true := by
  induction state, body using unescape.induct quote generalizing meant with
  | case1 => rfl
  | case2 => cases read
  | case3 => cases read
  | case4 rest ih =>
      rw [unescape, if_pos rfl] at read
      exact ih read
  | case5 c rest notBackslash refused =>
      rw [unescape, if_neg notBackslash, if_pos refused] at read
      cases read
  | case6 c rest notBackslash safe ih =>
      have notQuote : c ≠ quote := by
        rintro rfl
        simp at safe
      rw [unescape, if_neg notBackslash, if_neg safe] at read
      obtain ⟨later, read, _⟩ := Option.map_eq_some_iff.mp read
      exact (isOpen_cons notBackslash notQuote rest).trans (ih read)
  | case7 rest ih =>
      rw [unescape, if_pos rfl] at read
      exact ih read
  | case8 rest _ ih =>
      rw [unescape, if_neg (by decide), if_pos rfl] at read
      exact ih read
  | case9 c rest notShort notLong ih =>
      rw [unescape, if_neg notShort, if_neg notLong] at read
      obtain ⟨_, _, read⟩ := Option.bind_eq_some_iff.mp read
      obtain ⟨later, read, _⟩ := Option.map_eq_some_iff.mp read
      exact ih read
  | case10 value c rest ih =>
      obtain ⟨_, last, read⟩ := Option.bind_eq_some_iff.mp read
      obtain ⟨digit, last, _⟩ := Option.bind_eq_some_iff.mp last
      obtain ⟨later, read, _⟩ := Option.map_eq_some_iff.mp read
      exact (isOpen_hexDigit notDigit last rest).trans (ih read)
  | case11 later value c rest ih =>
      obtain ⟨digit, first, read⟩ := Option.bind_eq_some_iff.mp read
      exact (isOpen_hexDigit notDigit first rest).trans (ih digit read)

theorem all_isPrintable_hexadecimal (width value : Nat) :
    (hexadecimal width value).all isPrintable = true := by
  refine List.all_eq_true.mpr fun c member => ?_
  have bounds := bounds_of_hexDigit? (isSome_of_hexValue? (hexValue?_hexadecimal width value) c member)
  exact isPrintable_of_bounds (by omega) (by omega)

theorem all_isPrintable_codeEscape (c : Char) : (codeEscape c).all isPrintable = true := by
  rw [codeEscape]
  split
  · exact all_isPrintable_hexadecimal 8 c.toNat
  · exact all_isPrintable_hexadecimal 4 c.toNat

theorem Quoted.all_isPrintable {quote c : Char} {body : List Char} (quoted : Quoted quote c body) :
    body.all isPrintable = true := by
  cases quoted with
  | letter stands => simpa using ⟨by decide, isPrintable_of_escape? stands⟩
  | code => exact all_isPrintable_codeEscape c
  | plain _ _ notControl notEnd => simp [isPrintable, notControl, notEnd]

theorem unescape_escapeString (text : List Char) : unescape '"' .plain (escapeString text) = some text := by
  induction text with
  | nil => rfl
  | cons c rest ih =>
      rw [escapeString, List.flatMap_cons, (Quoted.escapeStringChar c).read, ← escapeString, ih]; rfl

theorem unescape_escapeCharBody (c : Char) : unescape '\x27' .plain (escapeCharBody c) = some [c] := by
  have read := (Quoted.escapeCharBody c).read []
  rwa [List.append_nil] at read

theorem all_isPrintable_escapeString (text : List Char) : (escapeString text).all isPrintable = true := by
  rw [escapeString, List.all_flatMap]
  exact List.all_eq_true.mpr fun c _ => (Quoted.escapeStringChar c).all_isPrintable

end Text

/-- The body of a quoted literal is read as what was written, and has no quote in it but behind a backslash;
the body of a string stays on one line and has no control character. -/
theorem quoted_bodies_read_back :
    (∀ value : String,
      (Literal.string value).text.toList = '"' :: (Text.escapeString value.toList ++ ['"']) ∧
      Text.unescape '"' .plain (Text.escapeString value.toList) = some value.toList ∧
      Lexeme.isOpen '"' (Text.escapeString value.toList) = true ∧
      ∀ c ∈ Text.escapeString value.toList, Text.isControl c = false ∧ Text.isLineTerminator c = false) ∧
    (∀ value : Char, ∃ body,
      (Literal.char value).text.toList = '\x27' :: (body ++ ['\x27']) ∧
      Text.unescape '\x27' .plain body = some [value] ∧ Lexeme.isOpen '\x27' body = true) := by
  constructor
  · intro value
    have read := Text.unescape_escapeString value.toList
    refine ⟨by simp [Literal.text], read, Text.isOpen_of_unescape (by decide) read, ?_⟩
    intro c member
    have printable := List.all_eq_true.mp (Text.all_isPrintable_escapeString value.toList) c member
    simpa [Text.isPrintable] using printable
  · intro value
    have read := Text.unescape_escapeCharBody value
    exact ⟨Text.escapeCharBody value, by simp [Literal.text], read, Text.isOpen_of_unescape (by decide) read⟩

-- A digit behind an escape is no part of it.
example : (Literal.string "\x850\x00").text = "\"\\u00850\\0\"" := by decide

namespace Literal

inductive Kind where
  | null
  | bool
  | char
  | string
  | int
  | uint
  | long
  | ulong
  | floating
  | decimal

def kind : Literal → Kind
  | .null => .null
  | .bool _ => .bool
  | .char _ => .char
  | .string _ => .string
  | .int _ => .int
  | .uint _ => .uint
  | .long _ => .long
  | .ulong _ => .ulong
  | .float _ => .floating
  | .double _ => .floating
  | .decimal _ => .decimal

def kindOf : List Char → Kind
  | 'l' :: _ => .null
  | 'e' :: _ => .bool
  | '\x27' :: _ => .char
  | '"' :: _ => .string
  | 'u' :: _ => .uint
  | 'L' :: 'U' :: _ => .ulong
  | 'L' :: _ => .long
  | 'm' :: _ => .decimal
  | _ => .int

theorem kindOf_digit {c : Char} (digit : c.isDigit = true) (rest : List Char) :
    kindOf (c :: rest) = .int := by
  unfold kindOf
  split <;> simp_all

theorem kindOf_digit_long {c : Char} (digit : c.isDigit = true) (rest : List Char) :
    kindOf ('L' :: c :: rest) = .long := by
  unfold kindOf
  split <;> simp_all

theorem reverse_nat (n : Nat) : ∃ c rest, (toString n).toList.reverse = c :: rest ∧ c.isDigit = true := by
  rw [Nat.toString_eq_repr, Nat.toList_repr]
  cases digits : (Nat.toDigits 10 n).reverse with
  | nil => exact absurd (List.reverse_eq_nil_iff.mp digits) Nat.toDigits_ne_nil
  | cons c rest =>
      have member : c ∈ Nat.toDigits 10 n := List.mem_reverse.mp (digits ▸ List.mem_cons_self ..)
      exact ⟨c, rest, rfl, Nat.isDigit_of_mem_toDigits (by omega) (by omega) member⟩

theorem reverse_int (i : Int) : ∃ c rest, (toString i).toList.reverse = c :: rest ∧ c.isDigit = true := by
  rw [Int.toString_eq_repr, Int.repr_eq_if]
  split
  · exact reverse_nat i.toNat
  · obtain ⟨c, rest, last, digit⟩ := reverse_nat (-i).toNat
    refine ⟨c, rest ++ ['-'], ?_, digit⟩
    have front : (toString (-i).toNat).toList.reverse ++ ['-'] = c :: (rest ++ ['-']) := by rw [last]; rfl
    simpa using front

theorem kindOf_text {value : Literal} (exact : value.isFloating = false) :
    kindOf value.text.toList.reverse = value.kind := by
  cases value with
  | float value => cases exact
  | double value => cases exact
  | null => rfl
  | bool value => cases value <;> rfl
  | char value => simp [text, kindOf, kind]
  | string value => simp [text, kindOf, kind]
  | int value =>
      obtain ⟨c, rest, last, digit⟩ := reverse_int value.toInt
      rw [text, last, kindOf_digit digit, kind]
  | long value =>
      obtain ⟨c, rest, last, digit⟩ := reverse_int value.toInt
      rw [text, String.toList_append, List.reverse_append, last]
      exact kindOf_digit_long digit rest
  | uint value => simp [text, kindOf, kind]
  | ulong value => simp [text, kindOf, kind]
  | decimal digits => simp [text, kindOf, kind]

theorem toString_nat_inj {m n : Nat} (same : toString m = toString n) : m = n := by
  have digits : Nat.toDigits 10 m = Nat.toDigits 10 n := by
    rw [← Nat.toList_repr, ← Nat.toList_repr]
    exact congrArg String.toList same
  rw [← Nat.ofDigitChars_ten_toDigits (n := m), digits, Nat.ofDigitChars_ten_toDigits]

theorem minus_ne_toString (n : Nat) (text : String) : "-" ++ text ≠ toString n := by
  intro same
  have member : '-' ∈ Nat.toDigits 10 n := by
    rw [← Nat.toList_repr, ← Nat.toString_eq_repr, ← same, String.toList_append]
    exact List.mem_append_left _ List.mem_cons_self
  cases Nat.isDigit_of_mem_toDigits (by omega) (by omega) member

theorem toString_int_inj {i j : Int} (same : toString i = toString j) : i = j := by
  rw [Int.toString_eq_repr, Int.toString_eq_repr, Int.repr_eq_if, Int.repr_eq_if] at same
  split at same
  next =>
    split at same
    next =>
      have equal := toString_nat_inj same
      omega
    next => exact absurd same.symm (minus_ne_toString _ _)
  next =>
    split at same
    next => exact absurd same (minus_ne_toString _ _)
    next =>
      have equal := toString_nat_inj ((String.append_right_inj "-").mp same)
      omega

/-- The text of a literal that is no floating-point number tells its kind and its value. -/
theorem eq_of_text_eq {first second : Literal} (firstExact : first.isFloating = false)
    (secondExact : second.isFloating = false) (same : first.text = second.text) : first = second := by
  have kinds : first.kind = second.kind := by rw [← kindOf_text firstExact, ← kindOf_text secondExact, same]
  cases first with
  | float value => cases firstExact
  | double value => cases firstExact
  | null => cases second <;> cases kinds; rfl
  | bool value =>
      cases second <;> cases kinds
      next other => cases value <;> cases other <;> simp [text] at same ⊢
  | char value =>
      cases second <;> cases kinds
      next other =>
        have bodies : Text.escapeCharBody value = Text.escapeCharBody other := by
          simpa [text] using congrArg String.toList same
        have read := Text.unescape_escapeCharBody value
        rw [bodies, Text.unescape_escapeCharBody] at read
        simpa using read.symm
  | string value =>
      cases second <;> cases kinds
      next other =>
        have bodies : Text.escapeString value.toList = Text.escapeString other.toList := by
          simpa [text] using congrArg String.toList same
        have read := Text.unescape_escapeString value.toList
        rw [bodies, Text.unescape_escapeString] at read
        exact congrArg string (String.toList_inj.mp (Option.some.inj read).symm)
  | int value =>
      cases second <;> cases kinds
      next other => exact congrArg int (Int32.toInt_inj.mp (toString_int_inj same))
  | long value =>
      cases second <;> cases kinds
      next other =>
        exact congrArg long (Int64.toInt_inj.mp (toString_int_inj (String.append_left_inj "L" |>.mp same)))
  | uint value =>
      cases second <;> cases kinds
      next other =>
        exact congrArg uint (UInt32.toNat_inj.mp (toString_nat_inj (String.append_left_inj "u" |>.mp same)))
  | ulong value =>
      cases second <;> cases kinds
      next other =>
        exact congrArg ulong (UInt64.toNat_inj.mp (toString_nat_inj (String.append_left_inj "UL" |>.mp same)))
  | decimal digits =>
      cases second <;> cases kinds
      next other => exact congrArg decimal (String.append_left_inj "m" |>.mp same)

/-- A subtraction that wraps around gives the greatest number, with its text. -/
theorem greatest_eq_of_text_eq :
    (uint (0 - 1)).text = (uint 4294967295).text ∧ uint (0 - 1) = uint 4294967295 :=
  ⟨by decide, eq_of_text_eq rfl rfl (by decide)⟩

end Literal

end CSharpLayout
