import CSharpLayout.Proofs.Strokes

/-! Offsets on a page. Every event adds a text that depends on the page only through its last line, and the
offset of a location counts the bytes of the text before it and of the indentation that is still owed. -/

namespace CSharpLayout

namespace Page

theorem foldl_advance_offset (chars : List Char) (location : Location) :
    (chars.foldl advance location).offset = location.offset + (String.ofList chars).utf8ByteSize := by
  induction chars generalizing location with
  | nil => rfl
  | cons c rest ih =>
      have step : (advance location c).offset = location.offset + c.utf8Size := by
        unfold advance
        split <;> rfl
      have size : (String.ofList (c :: rest)).utf8ByteSize =
          c.utf8Size + (String.ofList rest).utf8ByteSize := by
        rw [← List.singleton_append, String.ofList_append, String.utf8ByteSize_append,
          ← String.singleton_eq_ofList, String.utf8ByteSize_singleton]
      rw [List.foldl_cons, ih, step, size]
      omega

theorem advanceBy_offset (location : Location) (text : String) :
    (advanceBy location text).offset = location.offset + text.utf8ByteSize := by
  rw [advanceBy, foldl_advance_offset, String.ofList_toList]

theorem advanceBy_append (location : Location) (left right : String) :
    advanceBy location (left ++ right) = advanceBy (advanceBy location left) right := by
  rw [advanceBy, String.toList_append, List.foldl_append]
  rfl

def owed {δ : Type} (page : Page δ) : String :=
  if page.atLineStart then String.join (List.replicate page.indentation page.indentUnit) else ""

def added (page : Page String) : Event → String
  | .space => page.owed ++ " "
  | .newline => page.lineEnding
  | .directive kind argument =>
      (if page.atLineStart then "" else page.lineEnding) ++ String.join (directivePieces kind argument) ++
        page.lineEnding
  | event =>
      if event.isToken then
        page.owed ++ String.ofList event.spelling ++ (if event.endsLine then page.lineEnding else "")
      else ""

structure Wrote (page : Page String) (written : String) (later : Page String) : Prop where
  text : later.destination = page.destination ++ written
  reached : later.reached = advanceBy page.reached written
  accepted : later.failed = false
  unit : later.indentUnit = page.indentUnit
  ending : later.lineEnding = page.lineEnding

namespace Wrote

variable {page middle later : Page String} {text more : String}

theorem trans (first : Wrote page text middle) (second : Wrote middle more later) :
    Wrote page (text ++ more) later where
  text := by rw [second.text, first.text, String.append_assoc]
  reached := by rw [second.reached, first.reached, advanceBy_append]
  accepted := second.accepted
  unit := second.unit.trans first.unit
  ending := second.ending.trans first.ending

theorem refl (accepted : page.failed = false) : Wrote page "" page where
  text := String.append_empty.symm
  reached := rfl
  accepted := accepted
  unit := rfl
  ending := rfl

end Wrote

theorem put_wrote {page : Page String} (accepted : page.failed = false) (text : String) :
    Wrote page text (page.put text) := by
  by_cases empty : text.isEmpty = true
  · have nothing : text = "" := String.isEmpty_iff.mp empty
    subst nothing
    have same : page.put "" = page := if_pos (by simp)
    rw [same]
    exact .refl accepted
  · have written : page.put text =
        { page with
          destination := page.destination ++ text
          reached := advanceBy page.reached text } := by
      simp [put, accepted, empty, Destination.write]
    rw [written]
    exact ⟨rfl, rfl, accepted, rfl, rfl⟩

theorem putAll_wrote {page : Page String} (accepted : page.failed = false) (texts : List String) :
    Wrote page (String.join texts) (page.putAll texts) := by
  induction texts generalizing page with
  | nil => exact .refl accepted
  | cons text rest ih =>
      have first := put_wrote accepted text
      rw [String.join_cons]
      exact first.trans (ih first.accepted)

theorem ofList_flatMap (texts : List String) :
    String.ofList (texts.flatMap String.toList) = String.join texts := by
  rw [← String.toList_join, String.ofList_toList]

theorem added_token {event : Event} (token : event.isToken = true) (plain : event.isDirective = false)
    (page : Page String) : page.added event =
      page.owed ++ String.ofList event.spelling ++ (if event.endsLine then page.lineEnding else "") := by
  cases event with
  | directive kind argument => cases plain
  | space => cases token
  | newline => cases token
  | _ => simp [added, token]

theorem owed_eq {δ : Type} (page : Page δ) : page.owed = String.join page.margin := by
  unfold owed margin
  split <;> rfl

theorem added_eq (page : Page String) (event : Event) :
    page.added event = String.join (page.pieces event) := by
  cases token : event.isToken with
  | true =>
      cases directive : event.isDirective with
      | true =>
          cases event with
          | directive kind argument =>
              rw [added, pieces, String.join_append, String.join_append]
              cases page.atLineStart <;> simp
          | _ => cases directive
      | false =>
          rw [added_token token directive,
            pieces_of_beginsText page (Event.beginsText_of_token token directive), String.join_append,
            String.join_append, owed_eq, Event.spelling_eq token, ofList_flatMap]
          cases event.endsLine <;> simp
  | false =>
      cases event with
      | newline => simp [added, pieces]
      | space =>
          rw [added, pieces_of_beginsText page rfl, String.join_append, String.join_append, owed_eq]
          simp [Event.texts, Event.endsLine, Event.lineStartAfter]
      | enter node => rfl
      | leave node => rfl
      | indent => rfl
      | unindent => rfl
      | _ => cases token

theorem emit_wrote {page : Page String} (accepted : page.failed = false) (event : Event) :
    Wrote page (page.added event) (page.emit event) ∧
      (page.emit event).atLineStart = event.lineStartAfter page.atLineStart := by
  refine ⟨?_, emit_atLineStart page event⟩
  obtain ⟨text, reached, still, unit, ending⟩ := putAll_wrote accepted (page.pieces event)
  rw [emit_eq, added_eq]
  exact ⟨text, reached, still, unit, ending⟩

theorem owed_size {δ : Type} (page : Page δ) :
    page.owed.utf8ByteSize = if page.atLineStart then page.indentation * page.indentUnit.utf8ByteSize
      else 0 := by
  have size (count : Nat) :
      (String.join (List.replicate count page.indentUnit)).utf8ByteSize =
        count * page.indentUnit.utf8ByteSize := by
    induction count with
    | zero => simp
    | succ count ih =>
        rw [List.replicate_succ, String.join_cons, String.utf8ByteSize_append, ih, Nat.succ_mul, Nat.add_comm]
  unfold owed
  split
  · exact size page.indentation
  · rfl

theorem location_offset {δ : Type} (page : Page δ) :
    page.location.offset = page.reached.offset + page.owed.utf8ByteSize := by
  rw [owed_size, location]
  split <;> rfl

/-- A page that counts the bytes of its text. -/
structure Measured (page : Page String) : Prop where
  accepted : page.failed = false
  offset : page.reached.offset = page.destination.utf8ByteSize

namespace Measured

variable {page : Page String}

theorem location_offset (measured : page.Measured) :
    page.location.offset = page.destination.utf8ByteSize + page.owed.utf8ByteSize := by
  rw [Page.location_offset, measured.offset]

theorem emit (measured : page.Measured) (event : Event) : (page.emit event).Measured := by
  obtain ⟨wrote, _⟩ := emit_wrote measured.accepted event
  refine ⟨wrote.accepted, ?_⟩
  rw [wrote.reached, advanceBy_offset, wrote.text, String.utf8ByteSize_append, measured.offset]

theorem emitAll (measured : page.Measured) (events : List Event) : (Writer.emitAll page events).Measured := by
  induction events generalizing page with
  | nil => exact measured
  | cons event rest ih => exact ih (measured.emit event)

theorem emitAll_text (measured : page.Measured) (events : List Event) :
    ∃ more, (Writer.emitAll page events).destination = page.destination ++ more := by
  induction events generalizing page with
  | nil => exact ⟨"", String.append_empty.symm⟩
  | cons event rest ih =>
      obtain ⟨more, later⟩ := ih (measured.emit event)
      obtain ⟨wrote, _⟩ := emit_wrote measured.accepted event
      refine ⟨page.added event ++ more, ?_⟩
      rw [Writer.emitAll_cons, ← String.append_assoc, ← wrote.text]
      exact later

end Measured

end Page

end CSharpLayout
