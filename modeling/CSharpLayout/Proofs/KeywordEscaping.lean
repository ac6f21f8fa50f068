import CSharpLayout.Proofs.Failure
import CSharpLayout.Proofs.OwnNames
import CSharpLayout.Proofs.Visits

/-! Which names are written with `@`. A name is spelled by the node that writes it and the nodes around that
one, and the nodes that are open when it is written are these: each is a child of the next, up to the node
that is printed. This holds of all that is written, also when printing stops at a fault later. -/

namespace CSharpLayout

/-- What has been written when printing ends, be it at a fault. -/
def written (policy : Policy) (node : Node) : List Event :=
  (({ writer := {} } : Progress Tape).run (Layout.trace policy node)).writer.events

def untilFault (steps : List Step) : List Step := steps.takeWhile fun step => step.fault?.isNone

theorem Progress.run_untilFault {σ : Type} [Writer σ] (writer : σ) (atLineStart : Bool)
    {frames after : Frames} {steps : List Step} (balanced : framesAfter frames steps = some after) :
    (({ writer, atLineStart, frames } : Progress σ).run steps).writer =
      Writer.emitAll writer (settled atLineStart (untilFault steps)) := by
  induction steps generalizing writer atLineStart frames with
  | nil => rfl
  | cons step rest ih =>
      rw [run_cons]
      cases step with
      | opens frame => exact ih _ _ balanced
      | closes frame =>
          obtain ⟨top, outer, rfl, same, balanced⟩ := framesAfter_closes balanced
          rw [step_closes writer atLineStart outer same]
          exact ih _ _ balanced
      | event event => exact ih _ _ balanced
      | gap => cases atLineStart <;> exact ih _ _ balanced
      | freshLine => cases atLineStart <;> exact ih _ _ balanced
      | fault found => rw [run_of_fault _ _ rfl]; rfl

theorem untilFault_of_sound {steps : List Step} (sound : firstFault? steps = none) :
    untilFault steps = steps := by
  refine List.takeWhile_eq_self_iff.mpr fun step member => ?_
  have fine : step.fault? = none := List.findSome?_eq_none_iff.mp sound step member
  rw [fine]
  rfl

theorem written_eq (policy : Policy) (node : Node) :
    written policy node = settled true (untilFault (Layout.trace policy node)) := by
  have balanced : framesAfter [] (Layout.trace policy node) = some [] := Layout.framesAfter_steps []
  rw [written, Progress.run_untilFault _ _ balanced, Tape.events_emitAll]
  rfl

theorem written_of_events {policy : Policy} {node : Node} {found : List Event}
    (printed : events policy node = .ok found) : written policy node = found := by
  obtain ⟨sound, rfl⟩ := events_eq_ok printed
  rw [written_eq, untilFault_of_sound sound]

namespace Event

def isSolid : Event → Bool
  | .space => false
  | .newline => false
  | _ => true

end Event

def solid (events : List Event) : List Event := events.filter Event.isSolid

theorem solid_append (left right : List Event) : solid (left ++ right) = solid left ++ solid right :=
  List.filter_append ..

theorem openAfter_solid (opened : List Node) (events : List Event) :
    openAfter opened (solid events) = openAfter opened events := by
  induction events generalizing opened with
  | nil => rfl
  | cons event rest ih => cases event <;> exact ih _

def Step.solid? : Step → Option Event
  | .event found => if found.isSolid then some found else none
  | _ => none

def bare (steps : List Step) : List Event := steps.filterMap Step.solid?

theorem bare_append (left right : List Step) : bare (left ++ right) = bare left ++ bare right :=
  List.filterMap_append

theorem solid_settled (atLineStart : Bool) (steps : List Step) :
    solid (settled atLineStart steps) = bare steps := by
  induction steps generalizing atLineStart with
  | nil => rfl
  | cons step rest ih =>
      cases step with
      | event event =>
          have later := ih (event.lineStartAfter atLineStart)
          cases kept : event.isSolid <;> simpa [settled, solid, bare, Step.solid?, kept] using later
      | gap => cases atLineStart <;> exact ih _
      | freshLine => cases atLineStart <;> exact ih _
      | _ => exact ih _

/-- The texts that a node writes itself in the place of names, up to where it is left; `depth` counts the
nodes that are open inside it. -/
def ownTexts : Nat → List Event → List String
  | _, [] => []
  | depth, .enter _ :: rest => ownTexts (depth + 1) rest
  | 0, .leave _ :: _ => []
  | depth + 1, .leave _ :: rest => ownTexts depth rest
  | 0, .identifier text _ :: rest => text :: ownTexts 0 rest
  | depth, _ :: rest => ownTexts depth rest

theorem ownTexts_isPrefix (depth : Nat) (left right : List Event) :
    ownTexts depth left <+: ownTexts depth (left ++ right) := by
  induction left generalizing depth with
  | nil => exact List.nil_prefix
  | cons event rest ih =>
      cases event with
      | leave node =>
          cases depth with
          | zero => exact List.nil_prefix
          | succ depth => exact ih depth
      | identifier text tokenClass =>
          cases depth with
          | zero => exact List.prefix_cons_inj text |>.mpr (ih 0)
          | succ depth => exact ih (depth + 1)
      | enter node => exact ih (depth + 1)
      | _ => cases depth <;> exact ih _

theorem ownTexts_inside {inside : List Event} (nested : WellNested inside) (depth : Nat) (rest : List Event) :
    ownTexts (depth + 1) (inside ++ rest) = ownTexts (depth + 1) rest := by
  obtain ⟨nodes, nested⟩ := nested
  induction nested generalizing depth rest with
  | nil => rfl
  | @plain event calm =>
      cases event with
      | enter node => cases calm
      | leave node => cases calm
      | _ => rfl
  | append _ _ first second => rw [List.append_assoc, first, second]
  | @visit node inner body _ _ ih =>
      rw [List.cons_append, List.append_assoc, ownTexts, ih]
      rfl

theorem ownTexts_visit {node : Node} {body : List Event} (nested : WellNested body) (depth : Nat)
    (rest : List Event) :
    ownTexts depth (.enter node :: (body ++ [.leave node]) ++ rest) = ownTexts depth rest := by
  rw [List.cons_append, List.append_assoc, ownTexts, ownTexts_inside nested]
  rfl

theorem ownTexts_solid (depth : Nat) (events : List Event) :
    ownTexts depth (solid events) = ownTexts depth events := by
  induction events generalizing depth with
  | nil => rfl
  | cons event rest ih =>
      cases event with
      | leave node =>
          cases depth with
          | zero => rfl
          | succ depth => exact ih depth
      | identifier text tokenClass =>
          cases depth with
          | zero => exact congrArg (text :: ·) (ih 0)
          | succ depth => exact ih (depth + 1)
      | enter node => exact ih (depth + 1)
      | _ => cases depth <;> exact ih _

namespace Layout

section Steps

variable {policy : Policy} {node : Node} {address : List Nat} {above : Frames}

theorem bare_steps (policy : Policy) (node : Node) (address : List Nat) (above : Frames) :
    bare (steps policy node address above) =
      .enter node ::
        (bare (partSteps policy node address above 0 (plan policy (⟨node, address⟩ :: above) node)) ++
        [.leave node]) := by
  rw [steps_eq]
  simp only [bare, List.filterMap_cons, List.filterMap_append]
  rfl

/-- What one piece writes is complete: an event of its own, or the whole visit of a child. -/
theorem bare_pieceSteps_wellNested {piece : Piece}
    (children : ∀ slot found, piece = .child found → slot < node.children.length →
      WellNested (bare (steps policy found (slot :: address) (⟨node, address⟩ :: above))))
    (still : piece.isBoundary = false) (slot : Nat) :
    WellNested (bare (pieceSteps policy node address above slot piece)) := by
  cases piece with
  | event event =>
      cases kept : event.isSolid with
      | false => simpa [pieceSteps, bare, Step.solid?, kept] using WellNested.nil
      | true => simpa [pieceSteps, bare, Step.solid?, kept] using WellNested.cons still .nil
  | child found =>
      rw [pieceSteps]
      split
      next present => exact children slot found rfl present
      next => exact .nil
  | gap => exact .nil
  | freshLine => exact .nil
  | hidden found => exact .nil
  | problem problem => exact .nil

theorem bare_partSteps_wellNested {pieces : List Piece}
    (children : ∀ slot found, .child found ∈ pieces → slot < node.children.length →
      WellNested (bare (steps policy found (slot :: address) (⟨node, address⟩ :: above))))
    (quiet : calm pieces = true) (slot : Nat) :
    WellNested (bare (partSteps policy node address above slot pieces)) := by
  induction pieces generalizing slot with
  | nil => exact .nil
  | cons piece rest ih =>
      obtain ⟨still, calmRest⟩ := calm_cons quiet
      have first := bare_pieceSteps_wellNested
        (fun slot found same => children slot found (same ▸ List.mem_cons_self)) still slot
      rw [partSteps_cons, bare_append]
      exact first.append
        (ih (fun slot found asked => children slot found (List.mem_cons_of_mem _ asked)) calmRest _)

theorem bare_steps_wellNested (policy : Policy) (node : Node) (address : List Nat) (above : Frames) :
    WellNested (bare (steps policy node address above)) := by
  induction node, address, above using steps_induct with
  | visit node address above ih =>
      obtain ⟨nodes, nested⟩ := bare_partSteps_wellNested
        (fun slot found asked present => ih slot found (mem_children_of_asked asked present))
        (calm_plan policy (⟨node, address⟩ :: above) node) 0
      rw [bare_steps]
      exact ⟨[node], .visit trivial nested⟩

theorem ownTexts_partSteps {pieces : List Piece} (quiet : calm pieces = true) (slot : Nat)
    (rest : List Event) :
    ownTexts 0 (bare (partSteps policy node address above slot pieces) ++ rest) =
      namesAmong (signs pieces) ++ ownTexts 0 rest := by
  induction pieces generalizing slot with
  | nil => rfl
  | cons piece pieces ih =>
      obtain ⟨still, calmRest⟩ := calm_cons quiet
      have first (later : List Event) :
          ownTexts 0 (bare (pieceSteps policy node address above slot piece) ++ later) =
          namesAmong (signs [piece]) ++ ownTexts 0 later := by
        cases piece with
        | event event =>
            cases event with
            | enter node => cases still
            | leave node => cases still
            | token role text => cases role <;> rfl
            | _ => rfl
        | child found =>
            rw [pieceSteps]
            split
            next present =>
              rw [bare_steps, ownTexts_visit]
              · rfl
              · exact bare_partSteps_wellNested (fun _ _ _ _ => bare_steps_wellNested ..) (calm_plan ..) 0
            next => rfl
        | _ => rfl
      rw [partSteps_cons, bare_append, List.append_assoc, first, ih calmRest, ← List.append_assoc,
        ← namesAmong_append, ← signs_append]
      rfl

structure Entered (policy : Policy) (outer : Frames) (last : Option Frame) (before : List Event) (node : Node)
    (after : List Event) (address : List Nat) (above : Frames) (rest : List Event) : Prop where
  nodes : above.map Frame.node = openAfter (outer.map Frame.node) before
  chained : List.IsChain Frame.Within (⟨node, address⟩ :: above)
  outermost : (⟨node, address⟩ :: above).getLast? = last
  body : after =
    bare (partSteps policy node address above 0 (plan policy (⟨node, address⟩ :: above) node)) ++
      .leave node :: rest

theorem Entered.later {outer : Frames} {last : Option Frame} {front before after rest : List Event}
    (entered : Entered policy outer last before node after address above rest)
    (closed : openAfter (outer.map Frame.node) front = outer.map Frame.node) :
    Entered policy outer last (front ++ before) node after address above rest :=
  { entered with nodes := by rw [openAfter_append, closed, entered.nodes] }

theorem Entered.followed {outer : Frames} {last : Option Frame} {before after rest : List Event}
    (entered : Entered policy outer last before node after address above rest) (more : List Event) :
    Entered policy outer last before node (after ++ more) address above (rest ++ more) :=
  { entered with body := by rw [entered.body, List.append_assoc, List.cons_append] }

theorem Entered.inside {outer : Frame} {around : Frames} {last : Option Frame}
    {before after rest : List Event}
    (entered : Entered policy (outer :: around) last before node after address above rest) :
    Entered policy around last (.enter outer.node :: before) node after address above rest :=
  { entered with nodes := entered.nodes }

theorem pieceSteps_entered {piece : Piece} (still : piece.isBoundary = false) {slot : Nat}
    {before after : List Event} {found : Node}
    (split : bare (pieceSteps policy node address above slot piece) = before ++ .enter found :: after) :
    ∃ child, piece = .child child ∧ slot < node.children.length ∧
      bare (steps policy child (slot :: address) (⟨node, address⟩ :: above)) =
        before ++ .enter found :: after := by
  have member : .enter found ∈ bare (pieceSteps policy node address above slot piece) := by
    rw [split]
    exact List.mem_append_right _ List.mem_cons_self
  cases piece with
  | event event =>
      cases event with
      | enter node => cases still
      | space => exact absurd member List.not_mem_nil
      | newline => exact absurd member List.not_mem_nil
      | _ => cases List.mem_singleton.mp member
  | child wanted =>
      rw [pieceSteps] at split member
      split at split
      next present => exact ⟨wanted, rfl, present, split⟩
      next absent =>
        rw [if_neg absent] at member
        exact absurd member List.not_mem_nil
  | gap => exact absurd member List.not_mem_nil
  | freshLine => exact absurd member List.not_mem_nil
  | hidden other => exact absurd member List.not_mem_nil
  | problem problem => exact absurd member List.not_mem_nil

theorem partSteps_entered {last : Option Frame} {pieces : List Piece}
    (children : ∀ slot child, .child child ∈ pieces → slot < node.children.length → ∀ before found after,
      bare (steps policy child (slot :: address) (⟨node, address⟩ :: above)) =
        before ++ .enter found :: after →
      ∃ address' above' rest,
        Entered policy (⟨node, address⟩ :: above) last before found after address' above' rest)
    (quiet : calm pieces = true) (slot : Nat) {before after : List Event} {found : Node}
    (split : bare (partSteps policy node address above slot pieces) = before ++ .enter found :: after) :
    ∃ address' above' rest,
      Entered policy (⟨node, address⟩ :: above) last before found after address' above' rest := by
  induction pieces generalizing slot before after with
  | nil => simp [partSteps_nil, bare] at split
  | cons piece rest ih =>
      obtain ⟨still, calmRest⟩ := calm_cons quiet
      rw [partSteps_cons, bare_append] at split
      rcases append_cut split with ⟨inner, inFirst, rfl⟩ | ⟨start, inRest, rfl⟩
      · obtain ⟨child, rfl, present, inChild⟩ := pieceSteps_entered still inFirst
        obtain ⟨address', above', rest', entered⟩ :=
          children slot child List.mem_cons_self present _ _ _ inChild
        exact ⟨address', above', _, entered.followed _⟩
      · obtain ⟨address', above', rest', entered⟩ :=
          ih (fun slot child asked => children slot child (List.mem_cons_of_mem _ asked)) calmRest _ inRest
        obtain ⟨_, nested⟩ := bare_pieceSteps_wellNested (fun _ _ _ _ => bare_steps_wellNested ..) still slot
        exact ⟨address', above', rest', entered.later (nested.openAfter _)⟩

theorem steps_entered (chained : List.IsChain Frame.Within (⟨node, address⟩ :: above))
    {before after : List Event} {found : Node}
    (split : bare (steps policy node address above) = before ++ .enter found :: after) :
    ∃ address' above' rest,
      Entered policy above (⟨node, address⟩ :: above).getLast? before found after address' above' rest := by
  induction node, address, above using steps_induct generalizing before after found with
  | visit node address above ih =>
      rw [bare_steps] at split
      cases before with
      | nil =>
          obtain ⟨same, rfl⟩ := List.cons.inj split
          cases same
          exact ⟨address, above, [], rfl, chained, rfl, rfl⟩
      | cons first others =>
          rw [List.cons_append] at split
          obtain ⟨rfl, inside⟩ := List.cons.inj split
          rcases append_cut inside with ⟨inner, inBody, rfl⟩ | ⟨start, inTail, _⟩
          · obtain ⟨address', above', rest, entered⟩ :=
              partSteps_entered
                (fun slot child asked present before found after split => by
                  have member := mem_children_of_asked asked present
                  have entered := ih slot child member (.cons_cons member chained) split
                  rwa [List.getLast?_cons_cons] at entered)
                (calm_plan policy (⟨node, address⟩ :: above) node) 0 inBody
            exact ⟨address', above', _, entered.inside.followed _⟩
          · cases start with
            | nil => cases (List.cons.inj inTail).1
            | cons _ _ => simp at inTail

end Steps

end Layout

namespace Node

inductive IsQuery : Node → Prop
  | query (found : Query) : IsQuery (.query found)
  | expression (found : Query) : IsQuery (.expression (.query found))

inductive Governs : Bool → Node → Prop
  | lambda (isAsync : Bool) (parameters : List Parameter) (body : LambdaBody) :
      Governs isAsync (.expression (.lambda isAsync parameters body))
  | anonymousMethod (isAsync hasParameterList : Bool) (parameters : List Parameter) (body : Block) :
      Governs isAsync (.expression (.anonymousMethod isAsync hasParameterList parameters body))
  | typeDeclaration (found : TypeDeclaration) :
      Governs (found.modifiers.contains .async) (.typeDeclaration found)
  | delegate (found : DelegateDeclaration) : Governs (found.modifiers.contains .async) (.delegate found)
  | field (found : FieldDeclaration) : Governs (found.modifiers.contains .async) (.field found)
  | fixedField (found : FixedFieldDeclaration) : Governs (found.modifiers.contains .async) (.fixedField found)
  | method (found : MethodDeclaration) : Governs (found.modifiers.contains .async) (.method found)
  | constructor (found : ConstructorDeclaration) :
      Governs (found.modifiers.contains .async) (.constructor found)
  | destructor (found : DestructorDeclaration) : Governs (found.modifiers.contains .async) (.destructor found)
  | property (found : PropertyDeclaration) : Governs (found.modifiers.contains .async) (.property found)
  | indexer (found : IndexerDeclaration) : Governs (found.modifiers.contains .async) (.indexer found)
  | accessor (found : Accessor) : Governs (found.modifiers.contains .async) (.accessor found)
  | event (found : EventDeclaration) : Governs (found.modifiers.contains .async) (.event found)
  | customEvent (found : CustomEventDeclaration) :
      Governs (found.modifiers.contains .async) (.customEvent found)
  | operator (found : OperatorDeclaration) : Governs (found.modifiers.contains .async) (.operator found)
  | enumMember (found : EnumMember) : Governs (found.modifiers.contains .async) (.enumMember found)

theorem asynchrony?_eq_some_iff {node : Node} {isAsync : Bool} :
    node.asynchrony? = some isAsync ↔ node.Governs isAsync := by
  constructor
  · intro decides
    cases node with
    | expression found =>
        cases found with
        | lambda isAsync' parameters body =>
            cases decides
            exact .lambda ..
        | anonymousMethod isAsync' hasParameterList parameters body =>
            cases decides
            exact .anonymousMethod ..
        | _ => cases decides
    | _ => cases decides <;> constructor
  · rintro ⟨⟩ <;> rfl

theorem isQuery_iff {node : Node} (own : node.IsOwnView) : node.isQuery = true ↔ node.IsQuery := by
  constructor
  · intro queried
    cases node with
    | query found => exact .query found
    | _ => cases queried
  · rintro ⟨⟩
    · rfl
    · cases own

end Node

/-- Whether a name has to be told from a keyword, given the node that writes it and the nodes around that
one. -/
def NeedsEscape (path : List Node) (name : Identifier) : Prop :=
  name.verbatim = true ∨ name.name ∈ unconditionalKeywords ∨
    (name.name ∈ queryKeywords ∧ ∃ node ∈ path, node.IsQuery) ∨
    (name.name = "await" ∧ ∃ inner node outer, path = inner ++ node :: outer ∧ node.Governs true ∧
      ∀ other ∈ inner, ∀ isAsync, ¬other.Governs isAsync)

/-- A text is the name, or the name behind `@` where that is needed. -/
def SpelledIn (path : List Node) (name : Identifier) (text : String) : Prop :=
  (NeedsEscape path name → text = "@" ++ name.name) ∧ (¬NeedsEscape path name → text = name.name)

namespace Frames

theorem isKeyword_iff {frames : Frames} (own : ∀ frame ∈ frames, frame.node.IsOwnView) (name : String) :
    frames.isKeyword name = true ↔
      name ∈ unconditionalKeywords ∨
        (name ∈ queryKeywords ∧ ∃ node ∈ frames.map Frame.node, node.IsQuery) ∨
        (name = "await" ∧ ∃ inner node outer, frames.map Frame.node = inner ++ node :: outer ∧
          node.Governs true ∧
          ∀ other ∈ inner, ∀ isAsync, ¬other.Governs isAsync) := by
  have queried : (frames.any fun frame => frame.node.isQuery) = true ↔
      ∃ node ∈ frames.map Frame.node, node.IsQuery := by
    rw [List.any_eq_true]
    constructor
    · rintro ⟨frame, member, found⟩
      exact ⟨frame.node, List.mem_map_of_mem member, (Node.isQuery_iff (own frame member)).mp found⟩
    · rintro ⟨node, member, found⟩
      obtain ⟨frame, inside, rfl⟩ := List.mem_map.mp member
      exact ⟨frame, inside, (Node.isQuery_iff (own frame inside)).mpr found⟩
  have awaited : (frames.findSome? fun frame => frame.node.asynchrony?).getD false = true ↔
      ∃ inner node outer, frames.map Frame.node = inner ++ node :: outer ∧ node.Governs true ∧
        ∀ other ∈ inner, ∀ isAsync, ¬other.Governs isAsync := by
    have first : (frames.findSome? fun frame => frame.node.asynchrony?) =
        (frames.map Frame.node).findSome? Node.asynchrony? := by rw [List.findSome?_map]; rfl
    have present : ∀ found : Option Bool, found.getD false = true ↔ found = some true := by
      rintro (_ | _ | _) <;> simp
    rw [first, present, List.findSome?_eq_some_iff]
    simp only [← Node.asynchrony?_eq_some_iff, Option.eq_none_iff_forall_ne_some, ne_eq]
  simp only [isKeyword, Bool.or_eq_true, Bool.and_eq_true, List.contains_iff_mem, beq_iff_eq,
    queried, awaited, or_assoc]

theorem spelledIn_escaped {frames : Frames} (own : ∀ frame ∈ frames, frame.node.IsOwnView)
    (name : Identifier) :
    SpelledIn (frames.map Frame.node) name (frames.escaped name) := by
  have needed : NeedsEscape (frames.map Frame.node) name ↔
      (name.verbatim || frames.isKeyword name.name) = true := by
    rw [Bool.or_eq_true, isKeyword_iff own]
    rfl
  rw [SpelledIn, needed]
  exact ⟨fun keyword => if_pos keyword, fun other => if_neg other⟩

end Frames

theorem ownView_of_chained {frames : Frames} {root : Node} (chained : List.IsChain Frame.Within frames)
    (outermost : (frames.map Frame.node).getLast? = some root) (own : root.IsOwnView) :
    ∀ frame ∈ frames, frame.node.IsOwnView := by
  induction frames with
  | nil => simp
  | cons frame rest ih =>
      cases rest with
      | nil =>
          obtain rfl : frame.node = root := by simpa using outermost
          simpa using own
      | cons outer rest =>
          obtain ⟨within, linked⟩ := List.isChain_cons_cons.mp chained
          refine List.forall_mem_cons.mpr ⟨Node.ownViews_children outer.node _ within, ih linked ?_⟩
          rwa [List.map_cons, List.map_cons, List.getLast?_cons_cons] at outermost

theorem forall₂_spelledIn {frames : Frames} (own : ∀ frame ∈ frames, frame.node.IsOwnView)
    (names : List Identifier) :
    List.Forall₂ (SpelledIn (frames.map Frame.node)) names (names.map frames.escaped) :=
  List.forall₂_map_right_iff.mpr (List.forall₂_same.mpr fun name _ => Frames.spelledIn_escaped own name)

/-- A node that has been entered has frames for the nodes around it, and has written the first of its
names. -/
theorem written_entered {policy : Policy} {root node : Node} {before after : List Event}
    (own : root.IsOwnView) (split : written policy root = before ++ .enter node :: after)
    (plain : Layout.writesRawText node = false) :
    ∃ address above, above.map Frame.node = openAfter [] before ∧
      List.IsChain Frame.Within (⟨node, address⟩ :: above) ∧
      (⟨node, address⟩ :: above : Frames).getLast? = some ⟨root, []⟩ ∧
      ownTexts 0 after <+: Layout.spelled (⟨node, address⟩ :: above)
        (node.names (openAfter [] before).head?) ∧
      (firstFault? (Layout.trace policy root) = none →
        ownTexts 0 after = Layout.spelled (⟨node, address⟩ :: above)
          (node.names (openAfter [] before).head?)) := by
  have cut : bare (untilFault (Layout.trace policy root)) = solid before ++ .enter node :: solid after := by
    rw [← solid_settled true, ← written_eq, split, solid_append]
    rfl
  obtain ⟨more, continued⟩ :
      bare (untilFault (Layout.trace policy root)) <+: bare (Layout.trace policy root) :=
    (List.takeWhile_prefix _).filterMap _
  have all : bare (Layout.steps policy root [] []) = solid before ++ .enter node ::
      (solid after ++ more) := by
    rw [← Layout.trace, ← continued, cut, List.append_assoc, List.cons_append]
  obtain ⟨address, above, rest, nodes, chained, outermost, body⟩ :=
    Layout.steps_entered (List.isChain_singleton _) all
  have opened : above.map Frame.node = openAfter [] before := nodes.trans (openAfter_solid [] before)
  have shown : node.IsOwnView := by
    refine ownView_of_chained chained ?_ own ⟨node, address⟩ List.mem_cons_self
    rw [List.getLast?_map, outermost]
    rfl
  have parent : Frames.parent? (⟨node, address⟩ :: above) = (openAfter [] before).head? := by
    rw [← opened]
    cases above <;> rfl
  -- The node writes its names and nothing else in their place, so what it has written so far is a beginning
  -- of that.
  have texts : ownTexts 0 (solid after ++ more) =
      Layout.spelled (⟨node, address⟩ :: above) (node.names (openAfter [] before).head?) := by
    rw [body, Layout.ownTexts_partSteps (Layout.calm_plan ..),
      Layout.names_plan policy _ shown plain, parent]
    exact List.append_nil _
  refine ⟨address, above, opened, chained, outermost, ?_, fun sound => ?_⟩
  · rw [← texts, ← ownTexts_solid]
    exact ownTexts_isPrefix 0 _ _
  · rw [untilFault_of_sound sound, List.append_right_eq_self] at continued
    rw [← texts, continued, List.append_nil, ownTexts_solid]

theorem spelled_of_printed {policy : Policy} {root node : Node} {before after found : List Event}
    (printed : events policy root = .ok found) (split : found = before ++ .enter node :: after)
    (own : node.IsOwnView) (frames : Frames) :
    Layout.spelled frames (node.names (openAfter [] before).head?) =
      (node.names (openAfter [] before).head?).map frames.escaped := by
  have every : root.Every fun _ => True := fun _ _ => trivial
  obtain ⟨address, above, rest, _, _, visited⟩ := events_visited every printed split
  have parent : Frames.parent? (⟨node, address⟩ :: above) = (openAfter [] before).head? := by
    rw [← visited.nodes]
    cases above <;> rfl
  have sound :=
    (Layout.flawed_plan policy (⟨node, address⟩ :: above) own).mp (Layout.flawed_of_sound visited.sound)
  rw [parent] at sound
  rw [Layout.spelled, List.filter_eq_self.mpr]
  intro name member
  simpa using sound.named name member

/-- Every name that is written while a fragment is printed has `@` before it exactly if the node that writes
it and the nodes around that one ask for it: what a node writes in the place of names are its names in
order, all of them if printing succeeds, and the open nodes lead from child to parent up to the fragment. -/
theorem names_are_escaped {policy : Policy} {type : FragmentType} {value : type.Carrier}
    {before after : List Event} {node : Node}
    (split : written policy (type.node value) = before ++ .enter node :: after)
    (plain : Layout.writesRawText node = false) :
    List.IsChain (fun inner outer => inner ∈ outer.children) (node :: openAfter [] before) ∧
      (node :: openAfter [] before).getLast? = some (type.node value) ∧
      ∃ names, names.Sublist (node.names (openAfter [] before).head?) ∧
        List.Forall₂ (SpelledIn (node :: openAfter [] before)) names (ownTexts 0 after) ∧
        ∀ found, events policy (type.node value) = .ok found →
          names = node.names (openAfter [] before).head? := by
  obtain ⟨address, above, opened, chained, outermost, start, whole⟩ :=
    written_entered (type.ownView_node value) split plain
  have path : (⟨node, address⟩ :: above : Frames).map Frame.node = node :: openAfter [] before := by
    rw [List.map_cons, opened]
  have last : (node :: openAfter [] before).getLast? = some (type.node value) := by
    rw [← path, List.getLast?_map, outermost]
    rfl
  have own : ∀ frame ∈ (⟨node, address⟩ :: above : Frames), frame.node.IsOwnView :=
    ownView_of_chained chained (path ▸ last) (type.ownView_node value)
  refine ⟨path ▸ (List.isChain_map _).mpr chained, last, ?_⟩
  rw [← path]
  by_cases succeeds : ∃ found, events policy (type.node value) = .ok found
  · obtain ⟨found, printed⟩ := succeeds
    refine ⟨_, List.Sublist.refl _, ?_, fun _ _ => rfl⟩
    have inFound : found = before ++ .enter node :: after := by rw [← written_of_events printed, split]
    rw [whole (events_eq_ok printed).1, spelled_of_printed printed inFound (own _ List.mem_cons_self)]
    exact forall₂_spelledIn own _
  · obtain ⟨kept, beginning, texts⟩ := List.prefix_map_iff.mp start
    refine ⟨kept, beginning.sublist.trans List.filter_sublist, ?_, fun found printed => ?_⟩
    · rw [texts]
      exact forall₂_spelledIn own kept
    · exact absurd ⟨found, printed⟩ succeeds

def awaited : Expression := .identifier ⟨"await", false, none⟩ []

def plainFunction : Expression := .lambda false [] (.expression awaited)

def callInFunction : Expression := .invocation awaited [plainFunction]

def asyncFunction : Expression := .lambda true [] (.expression callInFunction)

/-- The name is the keyword in the outer function only, so it is written plainly in the inner one. -/
theorem await_is_plain_in_inner_function :
    ∃ before after, written Policy.kr (FragmentType.expression.node asyncFunction) =
        before ++ .enter (.expression awaited) :: after ∧
      openAfter [] before = [.expression plainFunction, .expression callInFunction,
        .expression asyncFunction] ∧
      .identifier "@await" .text ∈ before ∧ ownTexts 0 after = ["await"] ∧
      ∃ names, names.Sublist [⟨"await", false, none⟩] ∧
        List.Forall₂ (SpelledIn [.expression awaited, .expression plainFunction, .expression callInFunction,
          .expression asyncFunction]) names ["await"] := by
  let before : List Event :=
    [.enter (.expression asyncFunction), .keyword "async", .space, .token .openParen "(",
      .token .closeParen ")", .space, .token .operator "=>", .space, .enter (.expression callInFunction),
      .enter (.expression awaited), .identifier "@await" .text, .leave (.expression awaited),
      .token .openParen "(", .enter (.expression plainFunction), .token .openParen "(",
      .token .closeParen ")", .space, .token .operator "=>", .space]
  let after : List Event :=
    [.identifier "await" .text, .leave (.expression awaited), .leave (.expression plainFunction),
      .token .closeParen ")", .leave (.expression callInFunction), .leave (.expression asyncFunction)]
  have split : written Policy.kr (FragmentType.expression.node asyncFunction) =
      before ++ .enter (.expression awaited) :: after := by with_unfolding_all rfl
  obtain ⟨_, _, names, listed, spelled, _⟩ := names_are_escaped split rfl
  exact ⟨before, after, split, rfl, by simp [before], rfl, names, listed, spelled⟩

end CSharpLayout
