import CSharpLayout.Syntax.Operator
import CSharpLayout.Proofs.Strokes

/-! Lexemes of a text, by maximal munch: words, quoted literals, comments and symbols. A lexeme goes on as
long as the next character can belong to it. -/

namespace CSharpLayout

namespace Lexeme

def isWordCharacter (c : Char) : Bool := c.isAlphanum || c = '_' || c = '@' || 128 ≤ c.toNat

def symbols : List (List Char) :=
  ((Spelled.all : List BinaryOperator).map BinaryOperator.token ++
    (Spelled.all : List AssignmentOperator).map AssignmentOperator.token ++
    (Spelled.all : List UnaryOperator).map UnaryOperator.token ++
    (Spelled.all : List OverloadableOperator).filterMap OverloadableOperator.token? ++
    ["->", "=>", "::", "//", "/*"]).map String.toList

def isOpen (quote : Char) : List Char → Bool
  | [] => true
  | '\\' :: _ :: rest => isOpen quote rest
  | c :: rest => if c = quote then false else isOpen quote rest

def endsComment (body : List Char) : Bool := 2 ≤ body.length && ['*', '/'].isSuffixOf body

/-- Whether a character belongs to the lexeme that stands before it. -/
def continues (lexeme : List Char) (next : Char) : Bool :=
  match lexeme with
  | [] => false
  | '/' :: '/' :: _ => !Text.isLineEnd next
  | '/' :: '*' :: body => !endsComment body
  | first :: rest =>
      if first = '"' || first = '\'' then isOpen first rest && !Text.isLineEnd next
      else if isWordCharacter first then isWordCharacter next
      else symbols.contains (first :: rest ++ [next])

def started (c : Char) : List Char := if Text.isSeparator c then [] else [c]

def ended (lexeme : List Char) : List (List Char) := if lexeme.isEmpty then [] else [lexeme]

def read (lexeme : List Char) : List Char → List (List Char) × List Char
  | [] => ([], lexeme)
  | c :: rest =>
      if continues lexeme c then read (lexeme ++ [c]) rest
      else (ended lexeme ++ (read (started c) rest).1, (read (started c) rest).2)

def readAll (lexeme text : List Char) : List (List Char) :=
  (read lexeme text).1 ++ ended (read lexeme text).2

end Lexeme

def lexemes (text : String) : List (List Char) := Lexeme.readAll [] text.toList

-- Every part of a symbol that starts it is a symbol, so reading on while the lexeme is one finds the longest.
example : Lexeme.symbols.all (fun found => found.isEmpty || found.dropLast.length ≤ 1 ||
    Lexeme.symbols.contains found.dropLast || found.all Lexeme.isWordCharacter) = true := by decide

namespace Lexeme

theorem continues_nil (c : Char) : continues [] c = false := rfl

theorem symbols_solid : symbols.all (fun found => found.all fun c => !Text.isSeparator c) = true := by decide

theorem symbols_of_separator {c : Char} (separator : Text.isSeparator c = true) (lexeme : List Char) :
    symbols.contains (lexeme ++ [c]) = false := by
  cases listed : symbols.contains (lexeme ++ [c]) with
  | false => rfl
  | true =>
      have solid := List.all_eq_true.mp symbols_solid _ (List.contains_iff_mem.mp listed)
      exact absurd separator (by simpa using List.all_eq_true.mp solid c (by simp))

theorem isWordCharacter_of_separator {c : Char} (separator : Text.isSeparator c = true) :
    isWordCharacter c = false := by
  simp only [Text.isSeparator, Bool.or_eq_true, decide_eq_true_eq] at separator
  rcases separator with ((rfl | rfl) | rfl) | rfl <;> decide

/-- A lexeme that a space ends is ended by all white space. -/
theorem continues_separator {lexeme : List Char} (finished : continues lexeme ' ' = false) {c : Char}
    (separator : Text.isSeparator c = true) : continues lexeme c = false := by
  unfold continues at finished ⊢
  split
  · rfl
  · simp [Text.isLineEnd] at finished
  · exact finished
  next first rest _ _ =>
    simp only at finished
    by_cases quoted : (first = '"' || first = '\'') = true
    · simp only [quoted, if_true] at finished ⊢
      have closed : isOpen first rest = false := by simpa [Text.isLineEnd] using finished
      rw [closed, Bool.false_and]
    · rw [if_neg quoted]
      split
      · exact isWordCharacter_of_separator separator
      · exact symbols_of_separator separator _

theorem isSeparator_of_isLineEnd {c : Char} (ends : Text.isLineEnd c = true) : Text.isSeparator c = true := by
  simp only [Text.isLineEnd, Bool.or_eq_true, decide_eq_true_eq] at ends
  rcases ends with rfl | rfl <;> rfl

theorem continues_lineEnd {lexeme : List Char} (finished : continues lexeme '\n' = false) {c : Char}
    (ends : Text.isLineEnd c = true) : continues lexeme c = false := by
  unfold continues at finished ⊢
  split
  · rfl
  · rw [ends]
    rfl
  · exact finished
  next first rest _ _ =>
    split
    · rw [ends, Bool.not_true, Bool.and_false]
    · split
      · exact isWordCharacter_of_separator (isSeparator_of_isLineEnd ends)
      · exact symbols_of_separator (isSeparator_of_isLineEnd ends) _

theorem started_separator {c : Char} (separator : Text.isSeparator c = true) : started c = [] :=
  if_pos separator

theorem ended_of_ne_nil {lexeme : List Char} (some : lexeme ≠ []) : ended lexeme = [lexeme] := by
  simp [ended, some]

theorem read_cons_cut {lexeme : List Char} {c : Char} (cut : continues lexeme c = false) (rest : List Char) :
    read lexeme (c :: rest) = (ended lexeme ++ (read (started c) rest).1, (read (started c) rest).2) := by
  rw [read, cut]
  rfl

theorem read_append (lexeme left right : List Char) :
    read lexeme (left ++ right) =
      ((read lexeme left).1 ++ (read (read lexeme left).2 right).1, (read (read lexeme left).2 right).2) := by
  induction left generalizing lexeme with
  | nil => rfl
  | cons c rest ih =>
      rw [List.cons_append]
      cases goes : continues lexeme c with
      | true => simp only [read, goes, if_true, ih]
      | false =>
          rw [read_cons_cut goes, read_cons_cut goes, ih]
          simp [List.append_assoc]

theorem readAll_append (lexeme left right : List Char) :
    readAll lexeme (left ++ right) = (read lexeme left).1 ++ readAll (read lexeme left).2 right := by
  simp only [readAll, read_append, List.append_assoc]

/-- A character that does not belong to the lexeme before it is read as if nothing stood there. -/
theorem readAll_cut {lexeme : List Char} {c : Char} (cut : continues lexeme c = false) (rest : List Char) :
    readAll lexeme (c :: rest) = ended lexeme ++ readAll [] (c :: rest) := by
  simp only [readAll, read_cons_cut cut, read_cons_cut (continues_nil c), List.append_assoc]
  rfl

theorem read_separating {space : List Char} (separating : Text.Separating space) :
    read [] space = ([], []) := by
  induction space with
  | nil => rfl
  | cons c rest ih =>
      rw [read_cons_cut (continues_nil c), started_separator (separating c (List.mem_cons_self ..)),
        ih fun other member => separating other (List.mem_cons_of_mem _ member)]
      rfl

theorem readAll_space {lexeme : List Char} {c : Char} {space : List Char} (cut : continues lexeme c = false)
    (separating : Text.Separating (c :: space)) (rest : List Char) :
    readAll lexeme (c :: space ++ rest) = ended lexeme ++ readAll [] rest := by
  rw [List.cons_append, readAll_cut cut, ← List.cons_append, readAll_append, read_separating separating]
  rfl

theorem readAll_head {lexeme : List Char} (some : lexeme ≠ []) (text : List Char) :
    ∃ more later, readAll lexeme text = (lexeme ++ more) :: later := by
  induction text generalizing lexeme with
  | nil => exact ⟨[], [], by simp [readAll, read, ended_of_ne_nil some]⟩
  | cons c rest ih =>
      cases goes : continues lexeme c with
      | true =>
          obtain ⟨more, later, found⟩ :=
            ih (List.append_ne_nil_of_right_ne_nil lexeme (List.cons_ne_nil c []))
          refine ⟨c :: more, later, ?_⟩
          simpa [readAll, read, goes] using found
      | false =>
          rw [readAll_cut goes, ended_of_ne_nil some]
          exact ⟨[], _, by rw [List.append_nil]; rfl⟩

theorem readAll_ne_ended {lexeme : List Char} {c : Char} (goes : continues lexeme c = true)
    (rest : List Char) (later : List (List Char)) : readAll lexeme (c :: rest) ≠ ended lexeme ++ later := by
  intro same
  have some : lexeme ≠ [] := by
    rintro rfl
    exact absurd goes (by simp [continues_nil])
  have on : readAll lexeme (c :: rest) = readAll (lexeme ++ [c]) rest := by simp [readAll, read, goes]
  obtain ⟨more, others, found⟩ :=
    readAll_head (List.append_ne_nil_of_right_ne_nil lexeme (List.cons_ne_nil c [])) rest
  rw [on, found, ended_of_ne_nil some] at same
  have longer := congrArg List.length (List.cons.inj same).1
  simp at longer

end Lexeme

end CSharpLayout
