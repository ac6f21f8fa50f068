import Mathlib.Data.List.TakeWhile
import CSharpLayout.Proofs.Traversal

/-! What spans record. The span of a node starts where its first token is written and stops after its last
one, and nothing that is written after the node is left changes it. -/

namespace CSharpLayout

def lead (events : List Event) : List Event := events.takeWhile fun event => !event.isToken

def upToLastToken : List Event → Option (List Event)
  | [] => none
  | event :: rest =>
      match upToLastToken rest with
      | some found => some (event :: found)
      | none => if event.isToken then some [event] else none

def hasToken (events : List Event) : Bool := events.any Event.isToken

section Tokens

variable {left right : List Event}

theorem hasToken_append (left right : List Event) :
    hasToken (left ++ right) = (hasToken left || hasToken right) :=
  List.any_append

theorem hasToken_cons (event : Event) (rest : List Event) :
    hasToken (event :: rest) = (event.isToken || hasToken rest) := rfl

theorem lead_of_silent (silent : hasToken left = false) : lead left = left := by
  refine List.takeWhile_eq_self_iff.mpr fun event member => ?_
  have calm : event.isToken = false := Bool.eq_false_iff.mpr (List.any_eq_false.mp silent event member)
  rw [calm]
  rfl

theorem lead_append_of_silent (silent : hasToken left = false) (right : List Event) :
    lead (left ++ right) = left ++ lead right := by
  refine List.takeWhile_append_of_pos fun event member => ?_
  have calm : event.isToken = false := Bool.eq_false_iff.mpr (List.any_eq_false.mp silent event member)
  rw [calm]
  rfl

theorem lead_append_of_hasToken (some : hasToken left = true) (right : List Event) :
    lead (left ++ right) = lead left := by
  induction left with
  | nil => cases some
  | cons event rest ih =>
      cases token : event.isToken with
      | true => simp [lead, token]
      | false =>
          have later : hasToken rest = true := by simpa [hasToken_cons, token] using some
          have same := ih later
          simp only [lead] at same
          simp [lead, token, same]

theorem upToLastToken_append (left right : List Event) :
    upToLastToken (left ++ right) = ((upToLastToken right).map (left ++ ·)).or (upToLastToken left) := by
  induction left with
  | nil => cases found : upToLastToken right <;> simp [upToLastToken, found]
  | cons event rest ih =>
      rw [List.cons_append, upToLastToken, ih]
      cases found : upToLastToken right <;> simp [upToLastToken]

theorem upToLastToken_of_silent (silent : hasToken left = false) : upToLastToken left = none := by
  induction left with
  | nil => rfl
  | cons event rest ih =>
      rw [hasToken_cons, Bool.or_eq_false_iff] at silent
      simp [upToLastToken, ih silent.2, silent.1]

theorem isSome_upToLastToken (events : List Event) : (upToLastToken events).isSome = hasToken events := by
  induction events with
  | nil => rfl
  | cons event rest ih =>
      rw [upToLastToken, hasToken_cons, ← ih]
      cases upToLastToken rest with
      | some found => simp
      | none => cases token : event.isToken <;> simp

theorem upToLastToken_of_split {event : Event} (token : event.isToken = true)
    (silent : hasToken right = false) :
    upToLastToken (left ++ event :: right) = some (left ++ [event]) := by
  simp [upToLastToken_append, upToLastToken, upToLastToken_of_silent silent, token]

end Tokens

namespace Tracked

variable {σ : Type}

def waits (tracked : Tracked σ) (slot : Nat) : Bool := tracked.waiting.any fun opened => opened.slot == slot

theorem foldl_start_get (here : Location) (slot : Nat) (waiting : List OpenSpan) (spans : List NodeSpan) :
    (waiting.foldl (fun spans opened => spans.modify opened.slot fun span => { span with start := here })
      spans)[slot]? =
      (spans[slot]?).map fun span =>
        if (waiting.any fun opened => opened.slot == slot) = true then { span with start := here }
          else span := by
  induction waiting generalizing spans with
  | nil => simp
  | cons first rest ih =>
      rw [List.foldl_cons, ih]
      by_cases same : first.slot = slot
      · cases found : spans[slot]? <;> simp [same, found]
      · simp [same]

theorem startAt_get (tracked : Tracked σ) (here : Location) (slot : Nat) :
    (tracked.startAt here).spans[slot]? =
      (tracked.spans[slot]?).map fun span => if tracked.waits slot then { span with start := here }
        else span :=
  foldl_start_get here slot tracked.waiting tracked.spans

theorem waiting_startAt (tracked : Tracked σ) (here : Location) : (tracked.startAt here).waiting = [] := by
  simp only [startAt, waiting]
  cases tracked.opened with
  | nil => rfl
  | cons first rest => cases started : first.started <;> simp [started]

theorem mem_startAt_opened {tracked : Tracked σ} {here : Location} {opened : OpenSpan}
    (member : opened ∈ (tracked.startAt here).opened) :
    ∃ before ∈ tracked.opened, before.slot = opened.slot := by
  rcases List.mem_append.mp member with inner | outer
  · obtain ⟨before, among, rfl⟩ := List.mem_map.mp inner
    exact ⟨before, List.takeWhile_subset _ among, rfl⟩
  · exact ⟨opened, List.dropWhile_subset _ outer, rfl⟩

/-- The two agree on what is open and on the first spans. -/
structure Agree (bound : Nat) (left right : Tracked σ) : Prop where
  opened : left.opened = right.opened
  spans : ∀ slot < bound, left.spans[slot]? = right.spans[slot]?

namespace Agree

variable {bound : Nat} {left middle right : Tracked σ}

theorem refl (bound : Nat) (tracked : Tracked σ) : Agree bound tracked tracked := ⟨rfl, fun _ _ => rfl⟩

theorem trans (first : Agree bound left middle) (second : Agree bound middle right) :
    Agree bound left right where
  opened := first.opened.trans second.opened
  spans slot within := (first.spans slot within).trans (second.spans slot within)

theorem mono {less : Nat} (agree : Agree bound left right) (fewer : less ≤ bound) :
    Agree less left right where
  opened := agree.opened
  spans slot within := agree.spans slot (by omega)

theorem startAt (agree : Agree bound left right) (here : Location) :
    Agree bound (left.startAt here) (right.startAt here) where
  opened := by simp [Tracked.startAt, waiting, agree.opened]
  spans slot within := by
    rw [startAt_get, startAt_get, agree.spans slot within, waits, waits, waiting, waiting, agree.opened]

end Agree

theorem startAt_of_started {tracked : Tracked σ} (started : tracked.waiting = []) (here : Location) :
    tracked.startAt here = tracked := by
  have same : tracked.opened.dropWhile (fun opened => !opened.started) = tracked.opened := by
    rw [← List.nil_append (List.dropWhile _ _), ← started]
    exact List.takeWhile_append_dropWhile
  simp only [startAt, started, List.foldl_nil, List.map_nil, List.nil_append, same]

variable [Writer σ]

theorem emitAll_length (events : List Event) (tracked : Tracked σ) :
    tracked.spans.length ≤ (Writer.emitAll tracked events).spans.length := by
  induction events generalizing tracked with
  | nil => exact Nat.le_refl _
  | cons event rest ih =>
      have grown := congrArg List.length (emit_visits tracked event)
      simp only [List.length_map, List.length_append] at grown
      have later := ih (Writer.emit tracked event)
      rw [Writer.emitAll_cons]
      omega

theorem emit_lastTokenEnd (tracked : Tracked σ) (event : Event) :
    (Writer.emit tracked event).lastTokenEnd =
      if event.isToken then Writer.location (Writer.emit tracked.inner event) else tracked.lastTokenEnd := by
  cases event with
  | leave node =>
      simp only [Writer.emit, emit, leave]
      split <;> rfl
  | _ => rfl

theorem emitAll_lastTokenEnd (events : List Event) (tracked : Tracked σ) :
    (Writer.emitAll tracked events).lastTokenEnd =
      match upToLastToken events with
      | some front => Writer.location (Writer.emitAll tracked.inner front)
      | none => tracked.lastTokenEnd := by
  induction events generalizing tracked with
  | nil => rfl
  | cons event rest ih =>
      rw [Writer.emitAll_cons, ih, upToLastToken, emit_inner, emit_lastTokenEnd]
      cases upToLastToken rest with
      | some front => rfl
      | none => cases event.isToken <;> rfl

def begun (tracked : Tracked σ) (events : List Event) : Tracked σ :=
  if hasToken events then tracked.startAt (Writer.location (Writer.emitAll tracked.inner (lead events)))
    else tracked

theorem begun_of_silent {events : List Event} (silent : hasToken events = false) (tracked : Tracked σ) :
    tracked.begun events = tracked := by
  simp [begun, silent]

theorem begun_of_hasToken {events : List Event} (some : hasToken events = true) (tracked : Tracked σ) :
    tracked.begun events =
      tracked.startAt (Writer.location (Writer.emitAll tracked.inner (lead events))) := by
  simp [begun, some]

theorem begun_append_of_silent {right : List Event} (silent : hasToken right = false) (tracked : Tracked σ)
    (left : List Event) : tracked.begun (left ++ right) = tracked.begun left := by
  cases token : hasToken left with
  | true =>
      rw [begun_of_hasToken token, begun_of_hasToken (by rw [hasToken_append, token]; rfl),
        lead_append_of_hasToken token]
  | false => rw [begun_of_silent token, begun_of_silent (by rw [hasToken_append, token, silent]; rfl)]

theorem Agree.begun_append {bound : Nat} {tracked later : Tracked σ} {left right : List Event}
    (page : later.inner = Writer.emitAll tracked.inner left)
    (agree : Agree bound later (tracked.begun left)) :
    Agree bound (later.begun right) (tracked.begun (left ++ right)) := by
  cases some : hasToken left with
  | true =>
      have same : tracked.begun (left ++ right) = tracked.begun left := by
        rw [begun_of_hasToken some, begun_of_hasToken (by rw [hasToken_append, some]; rfl),
          lead_append_of_hasToken some]
      have started : later.waiting = [] := by
        rw [waiting, agree.opened, begun_of_hasToken some]
        exact waiting_startAt tracked _
      rw [same]
      refine Agree.trans ?_ agree
      cases token : hasToken right with
      | true =>
          rw [begun_of_hasToken token, startAt_of_started started]
          exact .refl _ _
      | false =>
          rw [begun_of_silent token]
          exact .refl _ _
  | false =>
      rw [begun_of_silent some] at agree
      cases token : hasToken right with
      | true =>
          rw [begun_of_hasToken token, begun_of_hasToken (by rw [hasToken_append, token, Bool.or_true]),
            lead_append_of_silent some, Writer.emitAll_append, page]
          exact agree.startAt _
      | false =>
          rw [begun_of_silent token, begun_of_silent (by rw [hasToken_append, some, token]; rfl)]
          exact agree

theorem emit_plain {event : Event} (calm : event.isBoundary = false) (tracked : Tracked σ) :
    Agree tracked.spans.length (Writer.emit tracked event) (tracked.begun [event]) := by
  cases event with
  | enter node => cases calm
  | leave node => cases calm
  | _ => exact ⟨rfl, fun _ _ => rfl⟩

theorem begun_enter (tracked : Tracked σ) (node : Node) (body : List Event) :
    ((Writer.emit tracked (.enter node)).begun body).opened =
        ⟨tracked.spans.length, hasToken body⟩ :: (tracked.begun (.enter node :: body)).opened ∧
      (∀ slot < tracked.spans.length, ((Writer.emit tracked (.enter node)).begun body).spans[slot]? =
        (tracked.begun (.enter node :: body)).spans[slot]?) ∧
      ((Writer.emit tracked (.enter node)).begun body).spans[tracked.spans.length]? =
        some ⟨tracked.spans.length, node.kind, tracked.opened.length,
          if hasToken body then
            Writer.location (Writer.emitAll tracked.inner (.enter node :: lead body))
          else Writer.location tracked.inner,
          Writer.location tracked.inner⟩ := by
  cases token : hasToken body with
  | false =>
      have silent : hasToken (.enter node :: body) = false := token
      rw [begun_of_silent token, begun_of_silent silent]
      refine ⟨rfl, fun slot within => List.getElem?_append_left within, ?_⟩
      simp [Writer.emit, emit, enter]
  | true =>
      have same : tracked.begun (.enter node :: body) =
          tracked.startAt (Writer.location (Writer.emitAll tracked.inner (.enter node :: lead body))) :=
        begun_of_hasToken (show hasToken (.enter node :: body) = true from token) tracked
      rw [begun_of_hasToken token, same]
      refine ⟨rfl, fun slot within => ?_, ?_⟩
      · have other : tracked.spans.length ≠ slot := by omega
        have waiting : (Writer.emit tracked (.enter node)).waits slot = tracked.waits slot := by
          simp [Writer.emit, emit, enter, waits, waiting, other]
        rw [startAt_get, startAt_get, waiting]
        exact congrArg _ (List.getElem?_append_left within)
      · have waiting : (Writer.emit tracked (.enter node)).waits tracked.spans.length = true := by
          simp [Writer.emit, emit, enter, waits, waiting]
        rw [startAt_get, waiting]
        simp [Writer.emit, emit, enter, Writer.emitAll_cons]

/-- A complete visit changes nothing before its own span but the starts of open nodes. -/
theorem emitAll_visit {body : List Event} {node : Node} {tracked : Tracked σ}
    (inside : Agree (tracked.spans.length + 1) (Writer.emitAll (Writer.emit tracked (.enter node)) body)
      ((Writer.emit tracked (.enter node)).begun body)) :
    Agree tracked.spans.length (Writer.emitAll tracked (.enter node :: (body ++ [.leave node])))
      (tracked.begun (.enter node :: (body ++ [.leave node]))) := by
  obtain ⟨opened, before, _⟩ := begun_enter tracked node body
  have same : tracked.begun (.enter node :: (body ++ [.leave node])) = tracked.begun (.enter node :: body) :=
    begun_append_of_silent rfl tracked (.enter node :: body)
  rw [Writer.emitAll_cons, Writer.emitAll_append, Writer.emitAll_singleton, same]
  have top := inside.opened.trans opened
  generalize Writer.emitAll (Writer.emit tracked (.enter node)) body = later at inside top ⊢
  have left : (Writer.emit later (.leave node)).opened = (tracked.begun (.enter node :: body)).opened := by
    simp only [Writer.emit, emit, leave, top]
  refine ⟨left, fun slot within => ?_⟩
  rw [← before slot within, ← inside.spans slot (by omega)]
  have other : tracked.spans.length ≠ slot := by omega
  simp only [Writer.emit, emit, leave, top]
  exact List.getElem?_modify_ne _ _ other

theorem emitAll_nested {fits : Node → List Node → List Event → Prop} {nodes : List Node} {events : List Event}
    (nested : Nested fits nodes events) (tracked : Tracked σ) :
    Agree tracked.spans.length (Writer.emitAll tracked events) (tracked.begun events) := by
  induction nested generalizing tracked with
  | nil => exact .refl _ _
  | plain calm => exact emit_plain calm tracked
  | @append _ _ left right _ _ first second =>
      rw [Writer.emitAll_append]
      refine Agree.trans ((second (Writer.emitAll tracked left)).mono (emitAll_length left tracked)) ?_
      exact (first tracked).begun_append (emitAll_page left tracked)
  | @visit node _ body _ _ ih =>
      have inside := ih (Writer.emit tracked (.enter node))
      have longer : (Writer.emit tracked (.enter node)).spans.length = tracked.spans.length + 1 :=
        List.length_append
      rw [longer] at inside
      exact emitAll_visit inside

theorem emit_kept {slot : Nat} (event : Event) {tracked : Tracked σ} (present : slot < tracked.spans.length)
    (closed : ∀ opened ∈ tracked.opened, opened.slot ≠ slot) :
    (Writer.emit tracked event).spans[slot]? = tracked.spans[slot]? ∧
      ∀ opened ∈ (Writer.emit tracked event).opened, opened.slot ≠ slot := by
  have calm (here : Location) : (tracked.startAt here).spans[slot]? = tracked.spans[slot]? ∧
      ∀ opened ∈ (tracked.startAt here).opened, opened.slot ≠ slot := by
    have none : tracked.waits slot = false := by
      refine List.any_eq_false.mpr fun opened member => ?_
      simp [closed opened (List.takeWhile_subset _ member)]
    refine ⟨by simp [startAt_get, none], fun opened member => ?_⟩
    obtain ⟨before, among, same⟩ := mem_startAt_opened member
    exact same ▸ closed before among
  cases event with
  | enter node =>
      refine ⟨List.getElem?_append_left present, fun opened member => ?_⟩
      rcases List.mem_cons.mp member with rfl | member
      · exact Nat.ne_of_gt present
      · exact closed opened member
  | leave node =>
      simp only [Writer.emit, emit, leave]
      split
      next => exact ⟨rfl, closed⟩
      next top started rest shape =>
        rw [shape] at closed
        exact ⟨List.getElem?_modify_ne _ _ (closed _ List.mem_cons_self),
          fun opened member => closed opened (List.mem_cons_of_mem _ member)⟩
  | space => exact ⟨rfl, closed⟩
  | newline => exact ⟨rfl, closed⟩
  | indent => exact ⟨rfl, closed⟩
  | unindent => exact ⟨rfl, closed⟩
  | _ => exact calm _

theorem emitAll_kept {slot : Nat} (events : List Event) {tracked : Tracked σ}
    (present : slot < tracked.spans.length) (closed : ∀ opened ∈ tracked.opened, opened.slot ≠ slot) :
    (Writer.emitAll tracked events).spans[slot]? = tracked.spans[slot]? := by
  induction events generalizing tracked with
  | nil => rfl
  | cons event rest ih =>
      obtain ⟨same, still⟩ := emit_kept event present closed
      have longer := emitAll_length [event] tracked
      rw [Writer.emitAll_singleton] at longer
      rw [Writer.emitAll_cons, ih (by omega) still, same]

def Bounded (tracked : Tracked σ) : Prop := ∀ opened ∈ tracked.opened, opened.slot < tracked.spans.length

theorem Bounded.emit {tracked : Tracked σ} (bounded : tracked.Bounded) (event : Event) :
    (Writer.emit tracked event).Bounded := by
  have longer := emitAll_length [event] tracked
  rw [Writer.emitAll_singleton] at longer
  intro opened member
  cases event with
  | enter node =>
      have length : (Writer.emit tracked (.enter node)).spans.length = tracked.spans.length + 1 :=
        List.length_append
      rcases List.mem_cons.mp member with rfl | member
      · simp [length]
      · have within := bounded opened member
        omega
  | leave node =>
      have among : opened ∈ tracked.opened := by
        simp only [Writer.emit, Tracked.emit, leave] at member
        split at member
        next none => exact member
        next shape => rw [shape]; exact List.mem_cons_of_mem _ member
      have within := bounded opened among
      omega
  | space => exact bounded opened member
  | newline => exact bounded opened member
  | indent => exact bounded opened member
  | unindent => exact bounded opened member
  | _ =>
      have begun : opened ∈ (tracked.startAt (Writer.location tracked.inner)).opened := member
      obtain ⟨before, among, same⟩ := mem_startAt_opened begun
      have within := bounded before among
      exact same ▸ Nat.lt_of_lt_of_le within longer

theorem Bounded.begun {tracked : Tracked σ} (bounded : tracked.Bounded) (events : List Event) :
    ∀ opened ∈ (tracked.begun events).opened, opened.slot < tracked.spans.length := by
  cases token : hasToken events with
  | false =>
      rw [begun_of_silent token]
      exact bounded
  | true =>
      rw [begun_of_hasToken token]
      intro opened member
      obtain ⟨before, among, same⟩ := mem_startAt_opened member
      exact same ▸ bounded before among

theorem Bounded.emitAll {tracked : Tracked σ} (bounded : tracked.Bounded) (events : List Event) :
    (Writer.emitAll tracked events).Bounded := by
  induction events generalizing tracked with
  | nil => exact bounded
  | cons event rest ih => exact ih (bounded.emit event)

end Tracked

/-- A visit among the events: the node is entered after `before`, left before `after`, and `inside` happens in
between. -/
structure Visit (events before : List Event) (node : Node) (inside after : List Event) : Prop where
  split : events = before ++ .enter node :: (inside ++ .leave node :: after)
  nested : WellNested inside

namespace Page

variable {δ : Type} [Destination δ]

def spanStart (page : Page δ) (inside : List Event) : Location := (Writer.emitAll page (lead inside)).location

def spanStop (page : Page δ) (inside : List Event) : Location :=
  (Writer.emitAll page ((upToLastToken inside).getD inside)).location

end Page

namespace Tracked

variable {δ : Type} [Destination δ]

theorem span_of_left {body : List Event} (nested : WellNested body) (node : Node)
    (tracked : Tracked (Page δ)) :
    (Writer.emitAll tracked (.enter node :: (body ++ [.leave node]))).spans[tracked.spans.length]? =
      some ⟨tracked.spans.length, node.kind, tracked.opened.length, tracked.inner.spanStart body,
        tracked.inner.spanStop body⟩ := by
  obtain ⟨_, nested⟩ := nested
  obtain ⟨opened, _, span⟩ := begun_enter tracked node body
  have inside := emitAll_nested nested (Writer.emit tracked (.enter node))
  have longer : (Writer.emit tracked (.enter node)).spans.length = tracked.spans.length + 1 :=
    List.length_append
  have found := (inside.spans tracked.spans.length (by omega)).trans span
  have top := inside.opened.trans opened
  have last := emitAll_lastTokenEnd body (Writer.emit tracked (.enter node))
  have page := emitAll_page body (Writer.emit tracked (.enter node))
  rw [Writer.emitAll_cons, Writer.emitAll_append, Writer.emitAll_singleton]
  generalize Writer.emitAll (Writer.emit tracked (.enter node)) body = later at top found last page ⊢
  simp only [Writer.emit, emit, leave, top]
  rw [List.getElem?_modify_eq, found]
  cases front : upToLastToken body with
  | some front' =>
      have token : hasToken body = true := by rw [← isSome_upToLastToken, front]; rfl
      simp only [front] at last
      simp only [token, if_true, last, Page.spanStart, Page.spanStop, front]
      rfl
  | none =>
      have token : hasToken body = false := by rw [← isSome_upToLastToken, front]; rfl
      simp only [token, Bool.false_eq_true, if_false, Page.spanStart, Page.spanStop, front,
        lead_of_silent token, page]
      rfl

/-- Whatever is written before or after, the span of a visited node tells where its tokens stand. -/
theorem span_of_visit {events before inside after : List Event} {node : Node}
    (visit : Visit events before node inside after) {tracked : Tracked (Page δ)} (bounded : tracked.Bounded) :
    (Writer.emitAll tracked events).spans[(Writer.emitAll tracked before).spans.length]? =
      some ⟨(Writer.emitAll tracked before).spans.length, node.kind,
        (Writer.emitAll tracked before).opened.length,
        (Writer.emitAll tracked.inner before).spanStart inside,
        (Writer.emitAll tracked.inner before).spanStop inside⟩ := by
  have shape : events = before ++ ((.enter node :: (inside ++ [.leave node])) ++ after) := by
    simp [visit.split]
  have left := span_of_left visit.nested node (Writer.emitAll tracked before)
  rw [emitAll_page] at left
  rw [shape, Writer.emitAll_append, Writer.emitAll_append, ← left]
  have enclosing := bounded.emitAll before
  generalize Writer.emitAll tracked before = entering at enclosing left ⊢
  obtain ⟨_, nested⟩ := visit.nested
  have complete : Nested (fun _ _ _ => True) [node] (.enter node :: (inside ++ [.leave node])) :=
    .visit trivial nested
  have whole := emitAll_nested complete entering
  have present : entering.spans.length <
      (Writer.emitAll entering (.enter node :: (inside ++ [.leave node]))).spans.length :=
    (List.getElem?_eq_some_iff.mp left).1
  refine emitAll_kept after present fun opened member => ?_
  rw [whole.opened] at member
  exact Nat.ne_of_lt (enclosing.begun _ opened member)

end Tracked

end CSharpLayout
