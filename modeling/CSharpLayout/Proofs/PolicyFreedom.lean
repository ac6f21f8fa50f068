import CSharpLayout.Proofs.Reflow
import CSharpLayout.Proofs.Strokes

/-! What a policy cannot change: whether a node can be printed, what is said when it cannot, and every event
that is not layout. -/

namespace CSharpLayout

namespace Step

def event? : Step → Option Event
  | .event found => some found
  | _ => none

end Step

def substance (steps : List Step) : List Event :=
  (steps.filter fun step => !step.isLayout).filterMap Step.event?

theorem firstFault?_filter (steps : List Step) :
    firstFault? (steps.filter fun step => !step.isLayout) = firstFault? steps := by
  induction steps with
  | nil => rfl
  | cons step rest ih =>
      cases step with
      | opens frame => exact ih
      | closes frame => exact ih
      | event found => cases layout : found.isLayout <;> simpa [layout] using ih
      | gap => simpa using ih
      | freshLine => simpa using ih
      | fault found => simp

/-- Where lines start has no influence on what is not layout. -/
theorem settled_filter (atLineStart : Bool) (steps : List Step) :
    (settled atLineStart steps).filter (fun event => !event.isLayout) = substance steps := by
  induction steps generalizing atLineStart with
  | nil => rfl
  | cons step rest ih =>
      cases step with
      | opens frame => exact ih atLineStart
      | closes frame => exact ih atLineStart
      | event found =>
          rw [settled, List.filter_cons, ih]
          cases layout : found.isLayout <;> simp [substance, Step.event?, layout]
      | gap =>
          rw [settled]
          cases atLineStart with
          | false => exact ih false
          | true => exact ih true
      | freshLine =>
          rw [settled]
          cases atLineStart with
          | false => exact ih true
          | true => exact ih true
      | fault found => exact ih atLineStart

namespace Layout

theorem trace_fault_eq (p q : Policy) (node : Node) :
    firstFault? (trace p node) = firstFault? (trace q node) := by
  rw [← firstFault?_filter, ← firstFault?_filter (trace q node)]
  exact congrArg firstFault? (steps_reflowed p q node [] []).filter_eq

theorem trace_substance_eq (p q : Policy) (node : Node) :
    substance (trace p node) = substance (trace q node) :=
  congrArg (List.filterMap Step.event?) (steps_reflowed p q node [] []).filter_eq

end Layout

theorem events_cases (p q : Policy) (node : Node) :
    (∃ error, events p node = .error error ∧ events q node = .error error) ∨
      ∃ found found', events p node = .ok found ∧ events q node = .ok found' ∧
        found.filter (fun event => !event.isLayout) = found'.filter (fun event => !event.isLayout) := by
  rw [events_eq, events_eq, Layout.trace_fault_eq q p]
  cases firstFault? (Layout.trace p node) with
  | some fault => exact .inl ⟨fault.toError, rfl, rfl⟩
  | none =>
      refine .inr ⟨_, _, rfl, rfl, ?_⟩
      rw [settled_filter, settled_filter, Layout.trace_substance_eq p q]

def solidText (events : List Event) : List Char := events.flatMap fun event => Text.solid event.spelling

theorem solidText_filter (events : List Event) :
    solidText (events.filter fun event => !event.isLayout) = solidText events := by
  induction events with
  | nil => rfl
  | cons event rest ih =>
      simp only [solidText, List.flatMap_cons] at ih ⊢
      cases layout : event.isLayout with
      | false => simp [layout, ih]
      | true =>
          rw [Event.spelling_of_not_token (Event.silent_of_layout layout), ← ih]
          simp [layout, Text.solid_nil]

theorem solid_after (policy : Policy) (events : List Event) :
    Text.solid (Page.after policy events).destination.toList = solidText events :=
  (Page.after_woven policy events).2.solid_eq.trans (strokes_text true .whitespace events)

/-- Under any two policies a node fails with the same error, or it is printed with the same events up to
layout and with the same text up to white space. -/
theorem printing_policy_free (p q : Policy) (node : Node) :
    (∃ error, events p node = .error error ∧ events q node = .error error ∧
      printNode p node = .error error ∧ printNode q node = .error error) ∨
    ∃ found found' text text', events p node = .ok found ∧ events q node = .ok found' ∧
      found.filter (fun event => !event.isLayout) = found'.filter (fun event => !event.isLayout) ∧
      printNode p node = .ok text ∧ printNode q node = .ok text' ∧
      Text.solid text.toList = Text.solid text'.toList := by
  rcases events_cases p q node with ⟨error, first, second⟩ | ⟨found, found', first, second, same⟩
  · exact .inl ⟨error, first, second, printNode_of_error first, printNode_of_error second⟩
  · refine .inr ⟨found, found', _, _, first, second, same, printNode_of_events first,
      printNode_of_events second, ?_⟩
    rw [solid_after, solid_after, ← solidText_filter found, same, solidText_filter]

end CSharpLayout
