import CSharpLayout.Proofs.Plans
import CSharpLayout.Proofs.Run

/-! Printing one node under two policies. The two runs take the same steps in the same order, white space and
indentation apart; where one policy is tighter than the other, so is its run. -/

namespace CSharpLayout

/-- Two lists with the same items in the same order, layout apart. Where `wider` holds, the second list has
blanks wherever the first one has. -/
inductive Reflowed {α : Type} (isLayout isBlank : α → Bool) (wider : Prop) : List α → List α → Prop
  | nil : Reflowed isLayout isBlank wider [] []
  | append {left right left' right' : List α} : Reflowed isLayout isBlank wider left right →
      Reflowed isLayout isBlank wider left' right' →
      Reflowed isLayout isBlank wider (left ++ left') (right ++ right')
  | same (item : α) : Reflowed isLayout isBlank wider [item] [item]
  | layout {left right : List α} : left.all isLayout = true → right.all isLayout = true →
      (wider → left.any isBlank = true → right.any isBlank = true) →
      Reflowed isLayout isBlank wider left right

namespace Reflowed

variable {α : Type} {isLayout isBlank : α → Bool} {wider : Prop}

theorem filter_eq {left right : List α} (reflowed : Reflowed isLayout isBlank wider left right) :
    left.filter (fun item => !isLayout item) = right.filter (fun item => !isLayout item) := by
  have none_left : ∀ items : List α, items.all isLayout = true →
      items.filter (fun item => !isLayout item) = [] := by
    intro items every
    refine List.filter_eq_nil_iff.mpr fun item member => ?_
    simp [List.all_eq_true.mp every item member]
  induction reflowed with
  | nil => rfl
  | append _ _ first second => rw [List.filter_append, List.filter_append, first, second]
  | same item => rfl
  | layout left right _ => rw [none_left _ left, none_left _ right]

theorem cons (item : α) {left right : List α} (rest : Reflowed isLayout isBlank wider left right) :
    Reflowed isLayout isBlank wider (item :: left) (item :: right) := append (same item) rest

theorem silent {left right : List α} (first : left.all (fun item => isLayout item && !isBlank item) = true)
    (second : right.all isLayout = true) : Reflowed isLayout isBlank wider left right := by
  refine layout ?_ second fun _ blank => ?_
  · refine List.all_eq_true.mpr fun item member => ?_
    exact (Bool.and_eq_true_iff.mp (List.all_eq_true.mp first item member)).1
  · obtain ⟨item, member, blank⟩ := List.any_eq_true.mp blank
    have calm := (Bool.and_eq_true_iff.mp (List.all_eq_true.mp first item member)).2
    exact absurd blank (by simpa using calm)

end Reflowed

def Piece.isLayout : Piece → Bool
  | .event found => found.isLayout
  | .gap => true
  | .freshLine => true
  | _ => false

namespace Step

def isLayout : Step → Bool
  | .event found => found.isLayout
  | .gap => true
  | .freshLine => true
  | _ => false

def isBlank : Step → Bool
  | .event .space => true
  | .event .newline => true
  | .gap => true
  | .freshLine => true
  | _ => false

@[simp] theorem isLayout_event (event : Event) : (Step.event event).isLayout = event.isLayout := rfl

@[simp] theorem isLayout_gap : Step.gap.isLayout = true := rfl

@[simp] theorem isLayout_freshLine : Step.freshLine.isLayout = true := rfl

@[simp] theorem isLayout_fault (found : Fault) : (Step.fault found).isLayout = false := rfl

end Step

theorem Piece.isLayout_of_isBlank {piece : Piece} (blank : piece.isBlank = true) : piece.isLayout = true := by
  cases piece with
  | event found =>
      cases found with
      | space => rfl
      | newline => rfl
      | _ => exact absurd blank (by simp [isBlank])
  | gap => rfl
  | freshLine => rfl
  | child node => exact absurd blank (by simp [isBlank])
  | hidden node => exact absurd blank (by simp [isBlank])
  | problem problem => exact absurd blank (by simp [isBlank])

namespace Layout

abbrev ReflowedPlan (wider : Prop) : List Piece → List Piece → Prop :=
  Reflowed Piece.isLayout Piece.isBlank wider

abbrev ReflowedSteps (wider : Prop) : List Step → List Step → Prop :=
  Reflowed Step.isLayout Step.isBlank wider

def isShift (piece : Piece) : Bool := piece.isLayout && !piece.isBlank

theorem indentedIf_shape (wanted : Bool) : ∃ before after, before.all isShift = true ∧
    after.all isShift = true ∧ ∀ body, indentedIf wanted body = before ++ body ++ after := by
  cases wanted with
  | false => exact ⟨[], [], rfl, rfl, fun body => (List.append_nil body).symm⟩
  | true => exact ⟨indent, unindent, rfl, rfl, fun _ => rfl⟩

theorem outdentedIf_shape (wanted : Bool) : ∃ before after, before.all isShift = true ∧
    after.all isShift = true ∧ ∀ body, outdentedIf wanted body = before ++ body ++ after := by
  cases wanted with
  | false => exact ⟨[], [], rfl, rfl, fun body => (List.append_nil body).symm⟩
  | true => exact ⟨unindent, indent, rfl, rfl, fun _ => rfl⟩

/-- Every style has a line break after the opening brace, and all but one have white space before it. -/
theorem openBrace_shape (style : BraceStyle) : ∃ before after : List Piece,
    openBrace style = before ++ symbol .openBrace "\x7b" ++ after ∧
    before.all Piece.isLayout = true ∧ (before.any Piece.isBlank = true ↔ style ≠ .sameLineNoSpace) ∧
    after.all Piece.isLayout = true ∧ after.any Piece.isBlank = true := by
  cases style with
  | doNotChange => exact ⟨[.gap], indent ++ newline, rfl, rfl, by decide, rfl, rfl⟩
  | sameLine => exact ⟨[.gap], indent ++ newline, rfl, rfl, by decide, rfl, rfl⟩
  | banner => exact ⟨[.gap], indent ++ newline, rfl, rfl, by decide, rfl, rfl⟩
  | sameLineNoSpace => exact ⟨[], indent ++ newline, rfl, rfl, by decide, rfl, rfl⟩
  | nextLine => exact ⟨[.freshLine], indent ++ newline, rfl, rfl, by decide, rfl, rfl⟩
  | nextLineIndented => exact ⟨.freshLine :: indent, newline, rfl, rfl, by decide, rfl, rfl⟩
  | nextLineIndentedTwice => exact ⟨.freshLine :: indent, indent ++ newline, rfl, rfl, by decide, rfl, rfl⟩

theorem closeBrace_shape (style : BraceStyle) : ∃ before after : List Piece,
    closeBrace style = before ++ symbol .closeBrace "\x7d" ++ after ∧
    before.all isShift = true ∧ after.all isShift = true := by
  cases style with
  | doNotChange => exact ⟨unindent, [], rfl, rfl, rfl⟩
  | sameLine => exact ⟨unindent, [], rfl, rfl, rfl⟩
  | sameLineNoSpace => exact ⟨unindent, [], rfl, rfl, rfl⟩
  | nextLine => exact ⟨unindent, [], rfl, rfl, rfl⟩
  | banner => exact ⟨[], unindent, rfl, rfl, rfl⟩
  | nextLineIndented => exact ⟨[], unindent, rfl, rfl, rfl⟩
  | nextLineIndentedTwice => exact ⟨unindent, unindent, rfl, rfl, rfl⟩

theorem all_layout_of_shift {pieces : List Piece} (shift : pieces.all isShift = true) :
    pieces.all Piece.isLayout = true := by
  refine List.all_eq_true.mpr fun piece member => ?_
  exact (Bool.and_eq_true_iff.mp (List.all_eq_true.mp shift piece member)).1

namespace ReflowedPlan

variable {wider : Prop}

theorem shift {left right : List Piece} (first : left.all isShift = true)
    (second : right.all isShift = true) :
    ReflowedPlan wider left right := .silent first (all_layout_of_shift second)

theorem braced {style style' : BraceStyle} {left right : List Piece}
    (looser : wider → style ≠ .sameLineNoSpace → style' ≠ .sameLineNoSpace)
    (body : ReflowedPlan wider left right) :
    ReflowedPlan wider (Layout.braced style left) (Layout.braced style' right) := by
  obtain ⟨before, after, opened, layout, blank, broken, _⟩ := openBrace_shape style
  obtain ⟨before', after', opened', layout', blank', broken', breaks⟩ := openBrace_shape style'
  obtain ⟨below, rest, closed, calm, still⟩ := closeBrace_shape style
  obtain ⟨below', rest', closed', calm', still'⟩ := closeBrace_shape style'
  rw [Layout.braced, Layout.braced, opened, opened', closed, closed']
  have opening : ReflowedPlan wider (before ++ symbol .openBrace "\x7b" ++ after)
      (before' ++ symbol .openBrace "\x7b" ++ after') :=
    .append (.append (.layout layout layout' fun loose found => blank'.mpr (looser loose (blank.mp found)))
      (.same _)) (.layout broken broken' fun _ _ => breaks)
  have closing : ReflowedPlan wider (below ++ symbol .closeBrace "\x7d" ++ rest)
      (below' ++ symbol .closeBrace "\x7d" ++ rest') :=
    .append (.append (shift calm calm') (.same _)) (shift still still')
  exact .append (.append opening body) closing

end ReflowedPlan

/-- Plans under two policies differ in layout only. -/
theorem Matched.reflowed {p q : Policy} {left right : List Piece} (matched : Matched p q left right) :
    ReflowedPlan (p.Tighter q) left right := by
  have allLayout : ∀ pieces : List Piece, pieces.all Piece.isBlank = true →
      pieces.all Piece.isLayout = true :=
    fun pieces every => List.all_eq_true.mpr fun piece member =>
      Piece.isLayout_of_isBlank (List.all_eq_true.mp every piece member)
  have anyBlank : ∀ pieces : List Piece, pieces.all Piece.isBlank = true →
      (pieces.any Piece.isBlank = true ↔ pieces ≠ []) := by
    intro pieces every
    cases pieces with
    | nil => simp
    | cons piece rest => simp [List.all_eq_true.mp every piece (List.mem_cons_self ..)]
  induction matched with
  | nil => exact .nil
  | append _ _ first second => exact .append first second
  | fixed _ => exact .same _
  | blank left right wider =>
      refine .layout (allLayout _ left) (allLayout _ right) fun tighter found => ?_
      exact (anyBlank _ right).mpr (wider tighter ((anyBlank _ left).mp found))
  | indented deep deep' _ ih =>
      obtain ⟨before, after, calm, still, shape⟩ := indentedIf_shape deep
      obtain ⟨before', after', calm', still', shape'⟩ := indentedIf_shape deep'
      rw [shape, shape']
      exact .append (.append (ReflowedPlan.shift calm calm') ih) (ReflowedPlan.shift still still')
  | delimited opening before after _ _ ih => exact .append (.append (.same _) ih) (.same _)
  | braced flat flat' wider _ ih =>
      obtain ⟨before, after, calm, still, shape⟩ := outdentedIf_shape flat
      obtain ⟨before', after', calm', still', shape'⟩ := outdentedIf_shape flat'
      rw [shape, shape']
      exact ReflowedPlan.braced wider
        (.append (.append (ReflowedPlan.shift calm calm') ih) (ReflowedPlan.shift still still'))

section Steps

variable (policy : Policy) (node : Node) (address : List Nat) (above : Frames)

theorem pieceSteps_layout (slot : Nat) {piece : Piece} (layout : piece.isLayout = true) :
    (pieceSteps policy node address above slot piece).all Step.isLayout = true ∧
      (pieceSteps policy node address above slot piece).any Step.isBlank = piece.isBlank := by
  cases piece with
  | event found =>
      refine ⟨by simpa [pieceSteps, Step.isLayout, Piece.isLayout] using layout, ?_⟩
      cases found <;> simp [pieceSteps, Step.isBlank, Piece.isBlank]
  | gap => exact ⟨rfl, rfl⟩
  | freshLine => exact ⟨rfl, rfl⟩
  | child found => exact absurd layout (by simp [Piece.isLayout])
  | hidden found => exact absurd layout (by simp [Piece.isLayout])
  | problem found => exact absurd layout (by simp [Piece.isLayout])

theorem partSteps_layout (slot : Nat) {pieces : List Piece} (layout : pieces.all Piece.isLayout = true) :
    (partSteps policy node address above slot pieces).all Step.isLayout = true ∧
      (partSteps policy node address above slot pieces).any Step.isBlank = pieces.any Piece.isBlank := by
  induction pieces generalizing slot with
  | nil => exact ⟨rfl, rfl⟩
  | cons piece rest ih =>
      rw [List.all_cons, Bool.and_eq_true] at layout
      obtain ⟨first, second⟩ := pieceSteps_layout policy node address above slot layout.1
      obtain ⟨third, fourth⟩ := ih (if piece.isChild then slot + 1 else slot) layout.2
      rw [partSteps_cons, List.all_append, List.any_append, List.any_cons]
      exact ⟨by rw [first, third]; rfl, by rw [second, fourth]⟩

end Steps

theorem slots_of_layout {pieces : List Piece} (layout : pieces.all Piece.isLayout = true) :
    slots pieces = 0 := by
  refine List.countP_eq_zero.mpr fun piece member => ?_
  have found := List.all_eq_true.mp layout piece member
  cases piece with
  | child node => exact absurd found (by simp [Piece.isLayout])
  | hidden node => exact absurd found (by simp [Piece.isLayout])
  | _ => simp [Piece.isChild]

theorem ReflowedPlan.slots_eq {wider : Prop} {left right : List Piece}
    (reflowed : ReflowedPlan wider left right) :
    slots left = slots right := by
  induction reflowed with
  | nil => rfl
  | append _ _ first second => simp only [slots, List.countP_append] at first second ⊢; omega
  | same item => rfl
  | layout left right _ => rw [slots_of_layout left, slots_of_layout right]

theorem ReflowedPlan.partSteps {p q : Policy} {node : Node} {address : List Nat} {above : Frames}
    {left right : List Piece} (reflowed : ReflowedPlan (p.Tighter q) left right)
    (children : ∀ slot found, .child found ∈ left → slot < node.children.length →
      ReflowedSteps (p.Tighter q) (steps p found (slot :: address) (⟨node, address⟩ :: above))
        (steps q found (slot :: address) (⟨node, address⟩ :: above))) (slot : Nat) :
    ReflowedSteps (p.Tighter q) (Layout.partSteps p node address above slot left)
      (Layout.partSteps q node address above slot right) := by
  induction reflowed generalizing slot with
  | nil => exact .nil
  | append first _ ih ih' =>
      rw [partSteps_append, partSteps_append, ← slots_eq first]
      exact .append (ih (fun slot found asked => children slot found (List.mem_append_left _ asked)) slot)
        (ih' (fun slot found asked => children slot found (List.mem_append_right _ asked)) _)
  | same piece =>
      rw [partSteps_cons, partSteps_cons, partSteps_nil, partSteps_nil, List.append_nil, List.append_nil]
      cases piece with
      | event found => exact .same _
      | gap => exact .same _
      | freshLine => exact .same _
      | hidden found => exact .nil
      | problem problem => exact .same _
      | child found =>
          by_cases present : slot < node.children.length
          · simpa only [pieceSteps, if_pos present] using children slot found List.mem_cons_self present
          · simpa only [pieceSteps, if_neg present] using .same _
  | layout left right wider =>
      obtain ⟨first, blank⟩ := partSteps_layout p node address above slot left
      obtain ⟨second, blank'⟩ := partSteps_layout q node address above slot right
      refine .layout first second fun tighter found => ?_
      rw [blank']
      exact wider tighter (blank ▸ found)

/-- Printing under two policies takes the same steps, layout apart. -/
theorem steps_reflowed (p q : Policy) (node : Node) (address : List Nat) (above : Frames) :
    ReflowedSteps (p.Tighter q) (steps p node address above) (steps q node address above) := by
  induction node, address, above using steps_induct with
  | visit node address above ih =>
      rw [steps_eq, steps_eq]
      refine .cons _ (.cons _ (.append ?_ (.cons _ (.same _))))
      exact (Matched.plan _ node).reflowed.partSteps
        (fun slot found asked present => ih slot found (mem_children_of_asked asked present)) 0

end Layout

end CSharpLayout
