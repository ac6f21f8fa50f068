import CSharpLayout.Proofs.Coverage

/-! Locations in the text. What a page has reached is where its text ends, counted in lines, characters and
bytes. Where the next text of a line will begin is told before the indentation of the line is written, and
this is right exactly if that indentation holds no line break of its own. -/

namespace CSharpLayout

/-- Where a text ends that begins the output: behind its line breaks, the characters of its last line, and
its bytes. -/
def Location.behind (text : String) : Location where
  line := 1 + text.toList.count '\n'
  column := 1 + (text.toList.reverse.takeWhile fun c => c ≠ '\n').length
  offset := text.utf8ByteSize

namespace Page

section Advancing

theorem advance_behind (text : String) (c : Char) : advance (.behind text) c = .behind (text.push c) := by
  by_cases breaks : c = '\n'
  · simp [advance, Location.behind, breaks, String.toList_push]
    omega
  · have other : ('\n' == c) = false := by simpa using Ne.symm breaks
    simp [advance, Location.behind, breaks, String.toList_push, List.count_append]
    omega

theorem foldl_advance_behind (chars : List Char) (front : String) :
    chars.foldl advance (.behind front) = .behind (front ++ String.ofList chars) := by
  induction chars generalizing front with
  | nil => simp
  | cons c rest ih =>
      have joined : front.push c ++ String.ofList rest = front ++ String.ofList (c :: rest) :=
        String.toList_inj.mp (by simp)
      rw [List.foldl_cons, advance_behind, ih, joined]

theorem advanceBy_behind (front text : String) :
    advanceBy (.behind front) text = .behind (front ++ text) := by
  rw [advanceBy, foldl_advance_behind, String.ofList_toList]

theorem foldl_advance_line (chars : List Char) (location : Location) :
    (chars.foldl advance location).line = location.line + chars.count '\n' := by
  induction chars generalizing location with
  | nil => rfl
  | cons c rest ih =>
      rw [List.foldl_cons, ih, List.count_cons, advance]
      by_cases breaks : c = '\n'
      · simp [breaks]
        omega
      · simp [breaks]

theorem foldl_advance_column {chars : List Char} (inLine : '\n' ∉ chars) (location : Location) :
    (chars.foldl advance location).column = location.column + chars.length := by
  induction chars generalizing location with
  | nil => rfl
  | cons c rest ih =>
      obtain ⟨first, others⟩ := not_or.mp (mt List.mem_cons.mpr inLine)
      rw [List.foldl_cons, ih others, advance, if_neg (Ne.symm first), List.length_cons,
        Nat.add_comm rest.length, ← Nat.add_assoc]

theorem advanceBy_inLine {text : String} (inLine : '\n' ∉ text.toList) (location : Location) :
    advanceBy location text =
      ⟨location.line, location.column + text.length, location.offset + text.utf8ByteSize⟩ := by
  have line : (advanceBy location text).line = location.line := by
    rw [advanceBy, foldl_advance_line, List.count_eq_zero_of_not_mem inLine, Nat.add_zero]
  have column : (advanceBy location text).column = location.column + text.length :=
    (foldl_advance_column inLine location).trans (by rw [String.length_toList])
  rw [← line, ← column, ← advanceBy_offset]

end Advancing

section Owed

variable {δ : Type} (page : Page δ)

theorem owed_length :
    page.owed.length = if page.atLineStart then page.indentation * page.indentUnit.length else 0 := by
  rw [owed_eq, String.length_join, margin]
  split <;> simp

theorem location_eq : page.location = ⟨page.reached.line, page.reached.column + page.owed.length,
    page.reached.offset + page.owed.utf8ByteSize⟩ := by
  rw [owed_length, owed_size, location]
  split <;> rfl

theorem newline_mem_owed :
    '\n' ∈ page.owed.toList ↔ page.atLineStart = true ∧ 0 < page.indentation ∧
      '\n' ∈ page.indentUnit.toList := by
  rw [owed_eq, String.toList_join, List.mem_flatMap, margin]
  cases page.atLineStart with
  | false => simp
  | true => simp [List.mem_replicate, Nat.pos_iff_ne_zero, and_assoc]

end Owed

structure Located (page : Page String) : Prop where
  accepted : page.failed = false
  reached : page.reached = .behind page.destination

namespace Located

variable {page : Page String}

theorem emit (located : page.Located) (event : Event) : (page.emit event).Located := by
  obtain ⟨wrote, _⟩ := emit_wrote located.accepted event
  refine ⟨wrote.accepted, ?_⟩
  rw [wrote.reached, located.reached, advanceBy_behind, wrote.text]

theorem emitAll (located : page.Located) (events : List Event) : (Writer.emitAll page events).Located := by
  induction events generalizing page with
  | nil => exact located
  | cons event rest ih => exact ih (located.emit event)

/-- The location that is told is the right one exactly if the missing indentation goes on in the line. -/
theorem location_eq_iff (located : page.Located) :
    page.location = .behind (page.destination ++ page.owed) ↔ '\n' ∉ page.owed.toList := by
  rw [← advanceBy_behind, ← located.reached]
  constructor
  · intro exact
    have line := congrArg Location.line exact
    rw [location_eq, advanceBy, foldl_advance_line] at line
    have none : page.owed.toList.count '\n' = 0 := by simp only at line; omega
    exact List.count_eq_zero.mp none
  · intro inLine
    rw [location_eq, advanceBy_inLine inLine]

end Located

theorem blank_located (unit ending : String) : (blank unit ending).Located := ⟨rfl, rfl⟩

theorem emitAll_blank_indentUnit (unit ending : String) (events : List Event) :
    (Writer.emitAll (blank unit ending) events).indentUnit = unit := by
  rw [emitAll_eq]
  exact (putAll_sameLine (blank unit ending) _).unit

end Page

/-- The text of an event stands behind the indentation that was missing, and whatever follows leaves it
there. -/
theorem textOf_split (unit ending : String) (before after : List Event) {event : Event}
    (begins : event.beginsText = true) :
    ∃ rest, textOf unit ending (before ++ event :: after) =
      textOf unit ending before ++ (Writer.emitAll (Page.blank unit ending) before).owed ++
        String.join event.texts ++ rest := by
  have measured := (Page.blank_measured unit ending).emitAll before
  obtain ⟨more, later⟩ := (measured.emit event).emitAll_text after
  rw [(Page.emit_wrote measured.accepted event).1.text, Page.added_eq, Page.pieces_of_beginsText _ begins,
    String.join_append, String.join_append, ← Page.owed_eq] at later
  rw [textOf, Writer.emitAll_append, Writer.emitAll_cons]
  simp only [String.append_assoc] at later ⊢
  exact ⟨_, later⟩

theorem Indentation.unit_inLine (indentation : Indentation) : '\n' ∉ indentation.unit.toList := by
  unfold Indentation.unit
  split
  · decide
  · rw [String.toList_ofList]
    exact fun member => absurd (List.eq_of_mem_replicate member) (by decide)

/-- A page always knows where its text ends. Right before an event that goes on in the line, the location it
tells is the place where the text of that event will begin, behind the indentation of the line, exactly if
that indentation is empty or its unit holds no line break. The units of policies hold none. -/
theorem locations_are_exact_iff (unit ending : String) :
    (∀ events, (Writer.emitAll (Page.blank unit ending) events).reached =
      .behind (textOf unit ending events)) ∧
    (∀ before event after, event.beginsText = true →
      let page := Writer.emitAll (Page.blank unit ending) before
      let front := textOf unit ending before ++ page.owed
      (∃ rest, textOf unit ending (before ++ event :: after) = front ++ String.join event.texts ++ rest) ∧
        (page.location = .behind front ↔
          (page.atLineStart = true → 0 < page.indentation → '\n' ∉ unit.toList))) ∧
    ∀ indentation : Indentation, unit = indentation.unit → ∀ before,
      let page := Writer.emitAll (Page.blank unit ending) before
      page.location = .behind (textOf unit ending before ++ page.owed) := by
  have located (events : List Event) : (Writer.emitAll (Page.blank unit ending) events).Located :=
    (Page.blank_located unit ending).emitAll events
  refine ⟨fun events => (located events).reached, ?_, ?_⟩
  · intro before event after begins page front
    refine ⟨textOf_split unit ending before after begins, ?_⟩
    have exact : page.location = .behind front ↔ '\n' ∉ page.owed.toList := (located before).location_eq_iff
    rw [exact, Page.newline_mem_owed, Page.emitAll_blank_indentUnit]
    simp only [not_and]
  · intro indentation same before page
    refine (located before).location_eq_iff.mpr ?_
    rw [Page.newline_mem_owed, Page.emitAll_blank_indentUnit, same]
    exact fun breaks => indentation.unit_inLine breaks.2.2

/-- A page that is indented by two spaces, in the second line. -/
theorem second_line_is_located :
    let page := Writer.emitAll (Page.blank "  " "\r\n") [.indent, .newline]
    (Event.keyword "if").beginsText = true ∧ page.location = ⟨2, 3, 4⟩ ∧ page.location = .behind "\r\n  " ∧
      textOf "  " "\r\n" ([.indent, .newline] ++ .keyword "if" :: [.space]) = "\r\n  " ++ "if" ++ " " := by
  intro page
  have begins : (Event.keyword "if").beginsText = true := rfl
  have unit : '\n' ∉ "  ".toList := by decide
  obtain ⟨_, exact⟩ :=
    (locations_are_exact_iff "  " "\r\n").2.1 [.indent, .newline] (.keyword "if") [.space] begins
  refine ⟨begins, by decide, ?_, by decide⟩
  exact exact.mpr fun _ _ => unit

/-- With a line break as its unit, indentation moves the next keyword to the second line; the location that
is told stays in the first. -/
theorem indentation_can_break_lines :
    textOf "\n" "\n" ([.indent] ++ .keyword "x" :: []) = "\n" ++ "x" ∧
      (Writer.emitAll (Page.blank "\n" "\n") [.indent]).location = ⟨1, 2, 1⟩ ∧
        Location.behind "\n" = ⟨2, 1, 1⟩ := by
  decide

end CSharpLayout
