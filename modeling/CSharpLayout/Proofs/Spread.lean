import Mathlib.Data.List.Forall2
import CSharpLayout.Proofs.PolicyFreedom

/-! Where white space stands under every policy. The texts of a node have the same strokes under all
policies, and each of them lies between the text of the tightest policy and that of the roomiest. -/

namespace CSharpLayout

/-- The same stroke, with white space before it at least where the first one has some. -/
inductive Looser : Stroke → Stroke → Prop
  | intro {apart apart' : Bool} {text : List Char} {endsLine : Bool} : (apart = true → apart' = true) →
      Looser ⟨apart, text, endsLine⟩ ⟨apart', text, endsLine⟩

namespace Step

def asEvent? : Step → Option Event
  | .event found => some found
  | .gap => some .space
  | .freshLine => some .newline
  | _ => none

end Step

def loud (steps : List Step) : List Event := steps.filterMap Step.asEvent?

theorem loud_append (left right : List Step) : loud (left ++ right) = loud left ++ loud right :=
  List.filterMap_append

theorem Event.lineStartAfter_silent {event : Event} (silent : event.isToken = false) {atLineStart : Bool}
    (starts : event.lineStartAfter atLineStart = true) : atLineStart = true ∨ event.isBlank = true := by
  cases event with
  | newline => exact .inr rfl
  | space => exact .inr rfl
  | enter node => exact .inl starts
  | leave node => exact .inl starts
  | indent => exact .inl starts
  | unindent => exact .inl starts
  | _ => exact absurd silent (by simp [isToken])

theorem strokes_blank {event : Event} (silent : event.isToken = false) (blank : event.isBlank = true)
    (apart : Bool) (bond : LastWritten) (rest : List Event) :
    strokes apart bond (event :: rest) = strokes true bond rest := by
  simp [strokes, silent, blank]

/-- White space that is left out at the start of a line follows white space anyway. -/
theorem strokes_gap {event : Event} (silent : event.isToken = false) (blank : event.isBlank = true)
    {atLineStart apart : Bool} (starts : atLineStart = true → apart = true) {bond : LastWritten}
    {left left' right : List Event} (first : strokes true bond left = strokes true bond right)
    (second : strokes true bond left' = strokes true bond right) :
    strokes apart bond (if atLineStart then left else event :: left') =
      strokes apart bond (event :: right) := by
  rw [strokes_blank silent blank]
  cases atLineStart with
  | true =>
      rw [if_pos rfl, starts rfl]
      exact first
  | false =>
      rw [if_neg Bool.false_ne_true, strokes_blank silent blank]
      exact second

theorem strokes_settled (steps : List Step) {atLineStart apart : Bool}
    (starts : atLineStart = true → apart = true) (bond : LastWritten) :
    strokes apart bond (settled atLineStart steps) = strokes apart bond (loud steps) := by
  induction steps generalizing atLineStart apart bond with
  | nil => rfl
  | cons step rest ih =>
      cases step with
      | opens frame => exact ih starts bond
      | closes frame => exact ih starts bond
      | fault found => exact ih starts bond
      | gap => exact strokes_gap rfl rfl starts (ih (fun _ => rfl) bond) (ih (fun _ => rfl) bond)
      | freshLine => exact strokes_gap rfl rfl starts (ih (fun _ => rfl) bond) (ih (fun _ => rfl) bond)
      | event event =>
          change strokes apart bond (event :: settled _ rest) = strokes apart bond (event :: loud rest)
          simp only [strokes]
          cases token : event.isToken with
          | true =>
              rw [Event.lineStartAfter_token token]
              simp only [if_true]
              split
              · exact ih (fun ends => Bool.or_eq_true_iff.mpr (.inr ends)) _
              · rw [ih id]
          | false =>
              simp only [Bool.false_eq_true, if_false]
              refine ih (fun lineStart => ?_) bond
              rcases Event.lineStartAfter_silent token lineStart with before | blank
              · simp [starts before]
              · simp [blank]

theorem strokes_layout {left : List Event} (layout : left.all Event.isLayout = true) (apart : Bool)
    (bond : LastWritten) (rest : List Event) :
    strokes apart bond (left ++ rest) = strokes (apart || left.any Event.isBlank) bond rest := by
  induction left generalizing apart with
  | nil => simp
  | cons event others ih =>
      rw [List.all_cons, Bool.and_eq_true] at layout
      simp only [List.cons_append, strokes, Event.silent_of_layout layout.1, Bool.false_eq_true, if_false,
        List.any_cons, ih layout.2, Bool.or_assoc]

theorem loud_reflowed {wider : Prop} {left right : List Step}
    (reflowed : Layout.ReflowedSteps wider left right) :
    Reflowed Event.isLayout Event.isBlank wider (loud left) (loud right) := by
  have layout : ∀ steps : List Step, steps.all Step.isLayout = true →
      (loud steps).all Event.isLayout = true ∧ (loud steps).any Event.isBlank = steps.any Step.isBlank := by
    intro steps every
    induction steps with
    | nil => exact ⟨rfl, rfl⟩
    | cons step rest ih =>
        rw [List.all_cons, Bool.and_eq_true] at every
        obtain ⟨first, second⟩ := ih every.2
        cases step with
        | event event =>
            refine ⟨Bool.and_eq_true_iff.mpr ⟨every.1, first⟩, ?_⟩
            change (event.isBlank || (loud rest).any Event.isBlank) = _
            rw [second, List.any_cons]
            cases event <;> rfl
        | gap => exact ⟨first, by simp [loud, Step.asEvent?, Event.isBlank, Step.isBlank]⟩
        | freshLine => exact ⟨first, by simp [loud, Step.asEvent?, Event.isBlank, Step.isBlank]⟩
        | _ => exact absurd every.1 (by simp [Step.isLayout])
  induction reflowed with
  | nil => exact .nil
  | append _ _ first second =>
      rw [loud_append, loud_append]
      exact .append first second
  | same step =>
      cases step with
      | event event => exact .same _
      | gap => exact .same _
      | freshLine => exact .same _
      | _ => exact .nil
  | layout left right looser =>
      obtain ⟨first, blank⟩ := layout _ left
      obtain ⟨second, blank'⟩ := layout _ right
      refine .layout first second fun wide found => ?_
      rw [blank']
      exact looser wide (blank ▸ found)

def GoesOn (rest rest' : List Event) : Prop :=
  ∀ (apart apart' : Bool) (bond : LastWritten), (apart = true → apart' = true) →
    List.Forall₂ Looser (strokes apart bond rest) (strokes apart' bond rest')

theorem goesOn_cons (event : Event) {rest rest' : List Event} (later : GoesOn rest rest') :
    GoesOn (event :: rest) (event :: rest') := by
  intro apart apart' bond wider
  simp only [strokes]
  have separated : ∀ needed : Bool, (apart || needed) = true → (apart' || needed) = true := by
    intro needed found
    rcases Bool.or_eq_true_iff.mp found with before | now
    · simp [wider before]
    · simp [now]
  split
  · split
    · refine later _ _ _ fun found => ?_
      rw [Bool.or_assoc] at found ⊢
      exact separated _ found
    · exact .cons (.intro (separated _)) (later _ _ _ id)
  · exact later _ _ _ (separated _)

/-- Runs that differ in layout only have the same strokes, and the roomier one has the looser ones. -/
theorem Reflowed.goesOn {wider : Prop} {left right : List Event}
    (reflowed : Reflowed Event.isLayout Event.isBlank wider left right) (wide : wider)
    {rest rest' : List Event} (later : GoesOn rest rest') : GoesOn (left ++ rest) (right ++ rest') := by
  induction reflowed generalizing rest rest' with
  | nil => exact later
  | append _ _ first second =>
      rw [List.append_assoc, List.append_assoc]
      exact first (second later)
  | same event => exact goesOn_cons event later
  | layout left right looser =>
      intro apart apart' bond before
      rw [strokes_layout left, strokes_layout right]
      refine later _ _ _ fun found => ?_
      rcases Bool.or_eq_true_iff.mp found with apart | blank
      · simp [before apart]
      · simp [looser wide blank]

theorem textStrokes_spread {p q : Policy} (tighter : p.Tighter q) {node : Node} {found found' : List Event}
    (printed : events p node = .ok found) (printed' : events q node = .ok found') :
    List.Forall₂ Looser (textStrokes found) (textStrokes found') := by
  obtain ⟨_, rfl⟩ := events_eq_ok printed
  obtain ⟨_, rfl⟩ := events_eq_ok printed'
  have reflowed := loud_reflowed (Layout.steps_reflowed p q node [] [])
  have nothing : GoesOn [] [] := fun _ _ _ _ => .nil
  have whole := reflowed.goesOn tighter nothing
  rw [List.append_nil, List.append_nil] at whole
  simp only [textStrokes, strokes_settled _ (fun _ => rfl)]
  exact whole true true .whitespace id

namespace Policy

def tight : Policy :=
  { Policy.kr with
    braces := fun _ => .sameLineNoSpace
    spacing := fun _ => false
    blankLines := ⟨0, 0⟩ }

def roomy : Policy :=
  { Policy.kr with
    braces := fun _ => .nextLine
    spacing := fun _ => true
    blankLines := ⟨1, 1⟩ }

theorem tight_tighter (policy : Policy) : tight.Tighter policy where
  spacing _ found := absurd found (by simp [tight])
  braces _ found := absurd rfl found
  betweenMembers found := absurd rfl found
  afterUsings found := absurd rfl found

theorem tighter_roomy (policy : Policy) : policy.Tighter roomy where
  spacing _ _ := rfl
  braces _ _ := by simp [roomy]
  betweenMembers _ := by simp [roomy]
  afterUsings _ := by simp [roomy]

end Policy

end CSharpLayout
