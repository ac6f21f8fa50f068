import CSharpLayout.Proofs.Exactness
import CSharpLayout.Proofs.Strokes

/-! The spaces that the grammar needs. A stage inserts them between words and between tokens that would
fuse, never where white space, a comment or a directive stands already, and a second such stage finds
nothing to insert. -/

namespace CSharpLayout

namespace Event

def writes (event : Event) : Bool := event.isToken || event.isBlank

def separates : Event → Bool
  | .comment _ _ => true
  | .directive _ _ => true
  | event => event.isBlank

def takesSpace : Event → Bool
  | .directive _ _ => false
  | event => event.isToken

def isWord : Event → Bool
  | .identifier _ _ => true
  | .keyword _ => true
  | .primitiveType text => text ≠ "new"
  | .literal value _ => !value.isQuoted
  | _ => false

def followsWord : Event → Bool
  | .identifier _ _ => true
  | .keyword _ => true
  | .primitiveType _ => true
  | .literal _ _ => true
  | _ => false

def startsWith (event : Event) (c : Char) : Bool := event.spelling.head? == some c

end Event

/-- Two events whose texts would read as one token, or as the start of a comment, without a space between
them. -/
inductive Fuses : Event → Event → Prop
  | words {first second : Event} : first.isWord = true → second.followsWord = true → Fuses first second
  | plus {role role' : TokenRole} {text : String} : (Event.token role' text).startsWith '+' = true →
      Fuses (.token role "+") (.token role' text)
  | minus {role role' : TokenRole} {text : String} : (Event.token role' text).startsWith '-' = true →
      Fuses (.token role "-") (.token role' text)
  | negative {role : TokenRole} {value : Literal} {raw : Option String} : value.isFloating = false →
      (Event.literal value raw).startsWith '-' = true → Fuses (.token role "-") (.literal value raw)
  | ampersand {role role' : TokenRole} {text : String} : (Event.token role' text).startsWith '&' = true →
      Fuses (.token role "&") (.token role' text)
  | questionMark {role role' : TokenRole} {text : String} : (Event.token role' text).startsWith '?' = true →
      Fuses (.token role "?") (.token role' text)
  | pointer {role role' : TokenRole} {text : String} : (Event.token role' text).startsWith '*' = true →
      Fuses (.token role "/") (.token role' text)
  | division {role role' : TokenRole} {text : String} : (Event.token role' text).startsWith '/' = true →
      Fuses (.token role "/") (.token role' text)
  | comment {role : TokenRole} {kind : CommentKind} {content : String} :
      Fuses (.token role "/") (.comment kind content)

/-- Events with spaces inserted right before some of them. `allowed` says where, given the events so far. -/
inductive Inserted (allowed : List Event → Event → Prop) : List Event → List Event → List Event → Prop
  | nil {before : List Event} : Inserted allowed before [] []
  | keep {before rest recorded : List Event} {event : Event} :
      Inserted allowed (before ++ [event]) rest recorded →
      Inserted allowed before (event :: rest) (event :: recorded)
  | insert {before rest recorded : List Event} {event : Event} : allowed before event →
      Inserted allowed (before ++ [event]) rest recorded →
      Inserted allowed before (event :: rest) (.space :: event :: recorded)

section Literals

theorem head?_toDigits (n : Nat) (suffix : List Char) : (Nat.toDigits 10 n ++ suffix).head? ≠ some '-' := by
  intro head
  rw [List.head?_append, Option.or_eq_some_iff] at head
  rcases head with first | ⟨none, _⟩
  · have digit := Nat.isDigit_of_mem_toDigits (by omega) (by omega) (List.mem_of_head? first)
    simp [Char.isDigit] at digit
  · exact Nat.toDigits_ne_nil (List.head?_eq_none_iff.mp none)

theorem head?_nat (n : Nat) (suffix : String) :
    ((toString n ++ suffix).toList.head? == some '-') = false := by
  rw [String.toList_append, Nat.toString_eq_repr, Nat.toList_repr]
  simpa using head?_toDigits n suffix.toList

theorem head?_int (i : Int) (suffix : String) :
    ((toString i ++ suffix).toList.head? == some '-') = decide (i < 0) := by
  rw [Int.toString_eq_repr, Int.repr_eq_if]
  by_cases nonneg : 0 ≤ i
  · have plain := head?_nat i.toNat suffix
    rw [Nat.toString_eq_repr] at plain
    rw [if_pos nonneg, plain]
    exact (decide_eq_false (by omega)).symm
  · rw [if_neg nonneg, String.append_assoc, String.toList_append]
    exact (decide_eq_true (by omega)).symm

theorem Literal.isNegative_eq {value : Literal} (exact : value.isFloating = false) :
    value.isNegative = (value.text.toList.head? == some '-') := by
  have plain (digits : String) : (digits.toList.head? == some '-') =
      ((digits ++ "m").toList.head? == some '-') := by
    rw [String.toList_append]
    cases digits.toList <;> rfl
  cases value with
  | float value => cases exact
  | double value => cases exact
  | bool value => cases value <;> rfl
  | int value =>
      have same := head?_int value.toInt ""
      rw [String.append_empty] at same
      rw [isNegative, text, same]
      exact decide_eq_decide.mpr Int32.lt_iff_toInt_lt
  | long value =>
      rw [isNegative, text, head?_int]
      exact decide_eq_decide.mpr Int64.lt_iff_toInt_lt
  | uint value => exact (head?_nat value.toNat "u").symm
  | ulong value => exact (head?_nat value.toNat "UL").symm
  | decimal digits => exact plain digits
  | null => rfl
  | char value => simp [isNegative, text]
  | string value => simp [isNegative, text]

end Literals

namespace LastWritten

theorem after_of_writes {event : Event} (writes : event.writes = true) (last bond : LastWritten) :
    last.after event = bond.after event := by
  cases event with
  | enter node => cases writes
  | leave node => cases writes
  | indent => cases writes
  | unindent => cases writes
  | _ => rfl

theorem after_of_silent {event : Event} (silent : event.writes = false) (last : LastWritten) :
    last.after event = last :=
  have ⟨noToken, noBlank⟩ := Bool.or_eq_false_iff.mp silent
  after_of_calm noToken noBlank last

theorem foldl_after (events : List Event) (last : LastWritten) :
    events.foldl after last = ((events.filter Event.writes).getLast?).elim last last.after := by
  induction events generalizing last with
  | nil => rfl
  | cons event rest ih =>
      rw [List.foldl_cons, ih]
      cases writes : event.writes with
      | false => rw [List.filter_cons_of_neg (by simp [writes]), after_of_silent writes]
      | true =>
          rw [List.filter_cons_of_pos writes, List.getLast?_cons]
          cases found : (rest.filter Event.writes).getLast? with
          | none => rfl
          | some other =>
              have also : other.writes = true := (List.mem_filter.mp (List.mem_of_getLast? found)).2
              exact after_of_writes also _ _

theorem needsSpace_whitespace (event : Event) : whitespace.needsSpace event = false := by
  cases event with
  | token role text =>
      simp only [needsSpace, fusesWith]
      split <;> rfl
  | _ => rfl

theorem after_separates {event : Event} (separates : event.separates = true) (last : LastWritten) :
    last.after event = .whitespace := by
  cases event with
  | comment kind content => rfl
  | directive kind argument => rfl
  | space => rfl
  | newline => rfl
  | _ => cases separates

theorem takesSpace_of_needsSpace {last : LastWritten} {event : Event}
    (needed : last.needsSpace event = true) :
    event.takesSpace = true := by
  cases event with
  | enter node => cases needed
  | leave node => cases needed
  | directive kind argument => cases needed
  | space => cases needed
  | newline => cases needed
  | indent => cases needed
  | unindent => cases needed
  | _ => rfl

theorem after_isWord {event : Event} (word : event.isWord = true) (last : LastWritten) :
    last.after event = .word := by
  cases event with
  | identifier text tokenClass => rfl
  | keyword text => rfl
  | primitiveType text =>
      have other : text ≠ "new" := by simpa [Event.isWord] using word
      simp [after, other]
  | literal value raw =>
      have plain : value.isQuoted = false := by simpa [Event.isWord] using word
      simp [after, plain]
  | _ => cases word

theorem needsSpace_word {event : Event} (follows : event.followsWord = true) :
    word.needsSpace event = true := by
  cases event with
  | identifier text tokenClass => rfl
  | keyword text => rfl
  | primitiveType text => rfl
  | literal value raw => rfl
  | _ => cases follows

theorem needsSpace_token {last : LastWritten} {role : TokenRole} {text : String} {c : Char}
    (starts : (Event.token role text).startsWith c = true)
    (fuses : (match some c with
      | some '+' => last = .plus
      | some '-' => last = .minus
      | some '&' => last = .ampersand
      | some '?' => last = .questionMark
      | some '*' => last = .division
      | some '/' => last = .division
      | _ => False)) : last.needsSpace (.token role text) = true := by
  have head : text.toList.head? = some c := by simpa [Event.startsWith, Event.spelling] using starts
  simp only [needsSpace, fusesWith, head]
  split at fuses <;> simp_all

theorem startsNegative_of_startsWith {value : Literal} {raw : Option String}
    (exact : value.isFloating = false) (starts : (Event.literal value raw).startsWith '-' = true) :
    startsNegative value raw = true := by
  cases raw with
  | some text => exact starts
  | none => exact (value.isNegative_eq exact).trans starts

theorem needsSpace_of_fuses {first second : Event} (fuses : Fuses first second) (last : LastWritten) :
    (last.after first).needsSpace second = true := by
  cases fuses with
  | words word follows =>
      rw [after_isWord word]
      exact needsSpace_word follows
  | negative exact starts => simp [after, ofToken, needsSpace, startsNegative_of_startsWith exact starts]
  | comment => rfl
  | plus starts => exact needsSpace_token starts rfl
  | minus starts => exact needsSpace_token starts rfl
  | ampersand starts => exact needsSpace_token starts rfl
  | questionMark starts => exact needsSpace_token starts rfl
  | pointer starts => exact needsSpace_token starts rfl
  | division starts => exact needsSpace_token starts rfl

end LastWritten

def spacedRecord (events : List Event) : List Event :=
  (Writer.emitAll (⟨{}, .whitespace⟩ : Spaced Tape) events).inner.events

theorem spacedRecord_eq (events : List Event) : spacedRecord events = withSpaces .whitespace events := by
  rw [spacedRecord, Spaced.emitAll_inner, Tape.events_emitAll]
  rfl

/-- A space may be inserted before a token that is no directive, where a token that is neither a comment nor
a directive was written last. -/
def MayInsert (before : List Event) (event : Event) : Prop :=
  event.takesSpace = true ∧ ∃ last, (before.filter Event.writes).getLast? = some last ∧ last.separates = false

theorem mayInsert_of_needsSpace {before : List Event} {event : Event}
    (needed : (before.foldl LastWritten.after .whitespace).needsSpace event = true) :
    MayInsert before event := by
  refine ⟨LastWritten.takesSpace_of_needsSpace needed, ?_⟩
  rw [LastWritten.foldl_after] at needed
  cases found : (before.filter Event.writes).getLast? with
  | none =>
      rw [found, Option.elim_none, LastWritten.needsSpace_whitespace] at needed
      cases needed
  | some last =>
      refine ⟨last, rfl, Bool.eq_false_iff.mpr fun separates => ?_⟩
      rw [found, Option.elim_some, LastWritten.after_separates separates, LastWritten.needsSpace_whitespace]
        at needed
      cases needed

theorem withSpaces_inserted (before events : List Event) :
    Inserted MayInsert before events (withSpaces (before.foldl LastWritten.after .whitespace) events) := by
  induction events generalizing before with
  | nil => exact .nil
  | cons event rest ih =>
      have later := ih (before ++ [event])
      rw [List.foldl_append, List.foldl_cons, List.foldl_nil] at later
      rw [withSpaces]
      split
      next needed => exact .insert (mayInsert_of_needsSpace needed) later
      next => exact .keep later

theorem withSpaces_of_silent {events : List Event} (silent : ∀ event ∈ events, event.writes = false)
    (last : LastWritten) : withSpaces last events = events ∧ events.foldl LastWritten.after last = last := by
  induction events with
  | nil => exact ⟨rfl, rfl⟩
  | cons event rest ih =>
      have quiet := silent event List.mem_cons_self
      obtain ⟨same, still⟩ := ih fun other member => silent other (List.mem_cons_of_mem _ member)
      rw [withSpaces_silent (Bool.or_eq_false_iff.mp quiet).1, List.foldl_cons,
        LastWritten.after_of_silent quiet, same]
      exact ⟨rfl, still⟩

theorem withSpaces_concat (last : LastWritten) (before : List Event) (event : Event) :
    ∃ front, withSpaces last (before ++ [event]) = front ++ [event] := by
  rw [withSpaces_append, withSpaces]
  split
  · exact ⟨withSpaces last before ++ [.space], by simp [withSpaces]⟩
  · exact ⟨withSpaces last before, rfl⟩

/-- Where the needed spaces are, none is needed any more. -/
theorem withSpaces_withSpaces (last : LastWritten) (events : List Event) :
    withSpaces last (withSpaces last events) = withSpaces last events := by
  induction events generalizing last with
  | nil => rfl
  | cons event rest ih =>
      rw [withSpaces]
      split
      next needed =>
        have writes : event.writes = true := by
          cases event with
          | directive kind argument => cases needed
          | _ => exact Bool.or_eq_true_iff.mpr (.inl (LastWritten.takesSpace_of_needsSpace needed))
        have same := LastWritten.after_of_writes writes LastWritten.whitespace last
        rw [withSpaces_silent rfl]
        change Event.space :: withSpaces .whitespace (event :: withSpaces (last.after event) rest) = _
        rw [withSpaces, LastWritten.needsSpace_whitespace, same, ih]
        rfl
      next calm =>
        rw [withSpaces, if_neg calm, ih]

theorem Spaced.emitAll_twice {σ : Type} [Writer σ] (writer : σ) (events : List Event) :
    (Writer.emitAll (⟨⟨writer, .whitespace⟩, .whitespace⟩ : Spaced (Spaced σ)) events).inner.inner =
      (Writer.emitAll (⟨writer, .whitespace⟩ : Spaced σ) events).inner := by
  rw [Spaced.emitAll_inner, Spaced.emitAll_inner, Spaced.emitAll_inner, withSpaces_withSpaces]

theorem spacedRecord_of_fuses {first second : Event} (fuses : Fuses first second) (before : List Event)
    {between : List Event} (silent : ∀ event ∈ between, event.writes = false) (after : List Event) :
    ∃ front back, spacedRecord (before ++ [first]) = front ++ [first] ∧
      spacedRecord (before ++ first :: (between ++ second :: after)) =
        front ++ first :: (between ++ .space :: second :: back) := by
  obtain ⟨front, handed⟩ := withSpaces_concat .whitespace before first
  have last : (before ++ [first]).foldl LastWritten.after .whitespace =
      (before.foldl LastWritten.after .whitespace).after first := by rw [List.foldl_append]; rfl
  obtain ⟨same, still⟩ :=
    withSpaces_of_silent silent ((before ++ [first]).foldl LastWritten.after .whitespace)
  have later (last : LastWritten) (needed : last.needsSpace second = true) :
      withSpaces last (second :: after) = .space :: second :: withSpaces (last.after second) after :=
    if_pos needed
  have shape : before ++ first :: (between ++ second :: after) = (before ++ [first]) ++
      (between ++ second :: after) := by
    simp
  refine ⟨front, withSpaces (((before ++ [first]).foldl LastWritten.after .whitespace).after second) after,
    ?_, ?_⟩
  · rw [spacedRecord_eq, handed]
  · rw [spacedRecord_eq, shape, withSpaces_append, handed, withSpaces_append, same, still, later _
      (last ▸ LastWritten.needsSpace_of_fuses fuses _), List.append_assoc]
    rfl

/-- The stage for needed spaces hands on all events and inserts spaces before tokens, never where white
space, a comment or a directive was written last; between two events that would fuse there always is a
space, whatever nodes are entered or left and however the indentation changes between them; and a second
such stage changes nothing. -/
theorem needed_spaces (events : List Event) :
    Inserted MayInsert [] events (spacedRecord events) ∧
    (∀ before first between second after, events = before ++ first :: (between ++ second :: after) →
      (∀ event ∈ between, event.writes = false) → Fuses first second →
      ∃ front back, spacedRecord (before ++ [first]) = front ++ [first] ∧
        spacedRecord events = front ++ first :: (between ++ .space :: second :: back)) ∧
    ∀ (σ : Type) [Writer σ] (writer : σ),
      (Writer.emitAll (⟨⟨writer, .whitespace⟩, .whitespace⟩ : Spaced (Spaced σ)) events).inner.inner =
        (Writer.emitAll (⟨writer, .whitespace⟩ : Spaced σ) events).inner := by
  refine ⟨?_, ?_, fun σ _ writer => Spaced.emitAll_twice writer events⟩
  · rw [spacedRecord_eq]
    exact withSpaces_inserted [] events
  · rintro before first between second after rfl silent fuses
    exact spacedRecord_of_fuses fuses before silent after

end CSharpLayout
