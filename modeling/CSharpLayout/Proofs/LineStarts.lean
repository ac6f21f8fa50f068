import CSharpLayout.Proofs.Strokes

/-! The start of a line is known twice: printing remembers whether it has just begun a line, and so does the
page that it writes onto, behind the stage that adds needed spaces. At no point of a run do the two
disagree. -/

namespace CSharpLayout

/-- A space that is inserted before an event does not change how the event leaves the line. -/
theorem Spaced.emit_atLineStart {δ : Type} [Destination δ] (spaced : Spaced (Page δ)) (event : Event) :
    (Writer.emit spaced event).inner.atLineStart = event.lineStartAfter spaced.inner.atLineStart := by
  obtain ⟨page, last⟩ := spaced
  cases needed : last.needsSpace event with
  | false =>
      rw [emit_inner_of_calm needed]
      exact Page.emit_atLineStart page event
  | true =>
      have token : event.isToken = true := by
        cases found : event.isToken with
        | true => rfl
        | false => exact (LastWritten.needsSpace_layout found last).symm.trans needed
      rw [emit_inner_of_needed needed]
      calc ((page.emit .space).emit event).atLineStart
          = event.endsLine := by rw [Page.emit_atLineStart, Event.lineStartAfter_token token]
        _ = event.lineStartAfter page.atLineStart := (Event.lineStartAfter_token token _).symm

namespace Progress

variable {δ : Type} [Destination δ]

def Agrees (progress : Progress (Spaced (Page δ))) : Prop :=
  progress.atLineStart = progress.writer.inner.atLineStart

variable {progress : Progress (Spaced (Page δ))}

theorem Agrees.emit (agrees : progress.Agrees) (event : Event) : (progress.emit event).Agrees := by
  calc (progress.emit event).atLineStart
      = event.lineStartAfter progress.writer.inner.atLineStart := congrArg (event.lineStartAfter ·) agrees
    _ = (progress.emit event).writer.inner.atLineStart := (Spaced.emit_atLineStart progress.writer event).symm

omit [Destination δ] in
theorem Agrees.close (agrees : progress.Agrees) (frame : Frame) : (progress.close frame).Agrees := by
  unfold Progress.close
  split
  · exact agrees
  · split
    · exact agrees
    · exact agrees

theorem Agrees.step (agrees : progress.Agrees) (step : Step) : (progress.step step).Agrees := by
  unfold Progress.step
  split
  · exact agrees
  · cases step with
    | opens frame => exact agrees
    | closes frame => exact agrees.close frame
    | event event => exact agrees.emit event
    | gap =>
        show Agrees (if progress.atLineStart then progress else progress.emit .space)
        split
        · exact agrees
        · exact agrees.emit .space
    | freshLine =>
        show Agrees (if progress.atLineStart then progress else progress.emit .newline)
        split
        · exact agrees
        · exact agrees.emit .newline
    | fault found => exact agrees

theorem Agrees.run (agrees : progress.Agrees) (steps : List Step) : (progress.run steps).Agrees := by
  induction steps generalizing progress with
  | nil => exact agrees
  | cons step rest ih => exact ih (agrees.step step)

end Progress

/-- Whatever node is printed under whatever policy, after any number of steps printing and the page agree on
whether a line has just begun. -/
theorem line_starts_agree (policy : Policy) (node : Node) (count : Nat) :
    let start : Progress (Spaced (Page String)) := { writer := { inner := .ofPolicy policy "" } }
    let reached := start.run ((Layout.steps policy node [] []).take count)
    reached.atLineStart = reached.writer.inner.atLineStart := by
  intro start reached
  have begun : start.Agrees := rfl
  exact begun.run _

end CSharpLayout
