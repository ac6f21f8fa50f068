import CSharpLayout.Syntax.Build
import CSharpLayout.Proofs.Offsets

/-! Types with dotted names. Such a type is a chain that leads from the last part of the name back to the
first, and it is printed from its far end: the parts of the name in order, with dots and nothing else
between them. -/

namespace CSharpLayout

/-- A type with a dotted name, and the parts of the name from the left. -/
inductive Dotted : TypeRef → List String → Prop
  | named (name : String) : Dotted (.named { name }) [name]
  | inside {target : TypeRef} {names : List String} (name : String) : Dotted target names →
      Dotted (target.inside { name }) (names ++ [name])

namespace Dotted

theorem foldl {target : TypeRef} {names : List String} (dotted : Dotted target names) (rest : List String) :
    Dotted (rest.foldl (fun target name => target.inside { name }) target) (names ++ rest) := by
  induction rest generalizing target names with
  | nil => rwa [List.append_nil]
  | cons name rest ih =>
      have longer := ih (dotted.inside name)
      rwa [List.append_assoc] at longer

theorem qualified (text : String) : Dotted (.qualified text) (Text.split '.' text) := by
  unfold TypeRef.qualified
  cases parts : Text.split '.' text with
  | nil => exact absurd parts (Text.split_ne_nil '.' text)
  | cons first rest => exact (Dotted.named first).foldl rest

theorem names_ne_nil {found : TypeRef} {names : List String} (dotted : Dotted found names) : names ≠ [] := by
  cases dotted <;> simp

end Dotted

def escapedPart (name : String) : String := if name ∈ unconditionalKeywords then "@" ++ name else name

namespace Frames

def OnlyTypes (frames : Frames) : Prop := ∀ frame ∈ frames, ∃ found, frame.node = .type found

variable {frames : Frames}

theorem OnlyTypes.cons (only : OnlyTypes frames) (found : TypeRef) (address : List Nat) :
    OnlyTypes (⟨.type found, address⟩ :: frames) := by
  intro frame member
  rcases List.mem_cons.mp member with rfl | among
  · exact ⟨found, rfl⟩
  · exact only frame among

theorem OnlyTypes.isKeyword (only : OnlyTypes frames) (name : String) :
    frames.isKeyword name = unconditionalKeywords.contains name := by
  have noQuery : (frames.any fun frame => frame.node.isQuery) = false := by
    refine List.any_eq_false.mpr fun frame member => ?_
    obtain ⟨found, same⟩ := only frame member
    simp [same, Node.isQuery]
  have noFunction : (frames.findSome? fun frame => frame.node.asynchrony?) = none := by
    refine List.findSome?_eq_none_iff.mpr fun frame member => ?_
    obtain ⟨found, same⟩ := only frame member
    rw [same]
    rfl
  simp [Frames.isKeyword, noQuery, noFunction]

theorem OnlyTypes.escaped (only : OnlyTypes frames) (name : String) :
    frames.escaped { name } = escapedPart name := by
  simp [Frames.escaped, only.isKeyword, escapedPart]

end Frames

namespace Layout

def nameSteps (frames : Frames) (name : String) : List Step :=
  if name.isEmpty then [.fault ⟨frames, .malformed .emptyName⟩]
  else [.event (.identifier (frames.escaped { name }) (typeNameClass frames))]

theorem partSteps_name (policy : Policy) (node : Node) (address : List Nat) (above : Frames) (slot : Nat)
    (name : String) :
    partSteps policy node address above slot
        (identifier (⟨node, address⟩ :: above) { name } (typeNameClass (⟨node, address⟩ :: above))) =
      nameSteps (⟨node, address⟩ :: above) name := by
  unfold identifier nameSteps
  split <;> rfl

section Steps

variable (policy : Policy) (name : String) (address : List Nat) (above : Frames)

theorem steps_named : steps policy (.type (.named { name })) address above =
    .opens ⟨.type (.named { name }), address⟩ :: .event (.enter (.type (.named { name }))) ::
      (nameSteps (⟨.type (.named { name }), address⟩ :: above) name ++
        [.closes ⟨.type (.named { name }), address⟩, .event (.leave (.type (.named { name })))]) := by
  have only (frames : Frames) : plan policy frames (.type (.named { name })) =
      identifier frames { name } (typeNameClass frames) := List.append_nil _
  rw [steps_eq, only, partSteps_name]

theorem steps_inside (target : TypeRef) : steps policy (.type (target.inside { name })) address above =
    .opens ⟨.type (target.inside { name }), address⟩ :: .event (.enter (.type (target.inside { name }))) ::
      (steps policy (Node.ofType target) (0 :: address)
        (⟨.type (target.inside { name }), address⟩ :: above) ++
        .event (.token .dot ".") ::
          (nameSteps (⟨.type (target.inside { name }), address⟩ :: above) name ++
            [.closes ⟨.type (target.inside { name }), address⟩,
              .event (.leave (.type (target.inside { name })))])) := by
  have parts (frames : Frames) : plan policy frames (.type (target.inside { name })) =
      visit (Node.ofType target) ++ symbol .dot "." ++ identifier frames { name } (typeNameClass frames) :=
    List.append_nil _
  have child : partSteps policy (.type (target.inside { name })) address above 0
      (visit (Node.ofType target)) =
      steps policy (Node.ofType target) (0 :: address) (⟨.type (target.inside { name }), address⟩ :: above) :=
    List.append_nil _
  rw [steps_eq, parts, partSteps_append, partSteps_append, partSteps_name, child, List.append_assoc,
    List.append_assoc]
  rfl

end Steps

theorem firstFault?_nameSteps (frames : Frames) (name : String) (rest : List Step) :
    firstFault? (nameSteps frames name ++ rest) =
      if name = "" then some ⟨frames, .malformed .emptyName⟩ else firstFault? rest := by
  unfold nameSteps
  by_cases missing : name = ""
  · simp [missing]
  · simp [missing]

/-- All that can be wrong with a dotted name is that a part of it is missing. -/
theorem firstFault?_dotted (policy : Policy) {found : TypeRef} {names : List String}
    (dotted : Dotted found names) (address : List Nat) (above : Frames) :
    (firstFault? (steps policy (Node.ofType found) address above)).map Fault.cause =
      if "" ∈ names then some (.malformed .emptyName) else none := by
  induction dotted generalizing address above with
  | named name =>
      show (firstFault? (steps policy (.type (.named { name })) address above)).map Fault.cause = _
      rw [steps_named, firstFault?_opens, firstFault?_event, firstFault?_nameSteps]
      by_cases missing : name = ""
      · simp [missing]
      · rw [if_neg missing, if_neg (by simpa using Ne.symm missing)]
        rfl
  | @inside target names name dotted ih =>
      show (firstFault? (steps policy (.type (target.inside { name })) address above)).map Fault.cause = _
      have earlier := ih (0 :: address) (⟨.type (target.inside { name }), address⟩ :: above)
      rw [steps_inside, firstFault?_opens, firstFault?_event, firstFault?_append, firstFault?_event,
        firstFault?_nameSteps]
      by_cases before : "" ∈ names
      · rw [if_pos before] at earlier
        obtain ⟨fault, stops, cause⟩ := Option.map_eq_some_iff.mp earlier
        rw [stops, if_pos (List.mem_append_left _ before)]
        exact congrArg some cause
      · rw [if_neg before] at earlier
        rw [Option.map_eq_none_iff.mp earlier, Option.none_or]
        by_cases missing : name = ""
        · simp [missing]
        · have complete : "" ∉ names ++ [name] := by simp [before, Ne.symm missing]
          rw [if_neg missing, if_neg complete]
          rfl

theorem settled_nameSteps (frames : Frames) {name : String} (given : name ≠ "") (atLineStart : Bool)
    (rest : List Step) :
    settled atLineStart (nameSteps frames name ++ rest) =
      .identifier (frames.escaped { name }) (typeNameClass frames) :: settled false rest := by
  simp [nameSteps, given, settled, Event.lineStartAfter]

end Layout

namespace Spaced

structure Shows (spaced : Spaced (Page String)) (text : String) (last : LastWritten) : Prop where
  text : spaced.inner.destination = text
  last : spaced.last = last
  accepted : spaced.inner.failed = false
  flush : spaced.inner.indentation = 0

variable {spaced : Spaced (Page String)} {text : String} {last : LastWritten}

theorem Shows.emit (shows : spaced.Shows text last) {event : Event} {own : String}
    (calm : last.needsSpace event = false) (level : event.indentationAfter 0 = 0)
    (adds : ∀ page : Page String, page.margin = [] → String.join (page.pieces event) = own) :
    (Writer.emit spaced event).Shows (text ++ own) (last.after event) := by
  obtain ⟨page, _⟩ := spaced
  obtain ⟨rfl, rfl, accepted, flush⟩ := shows
  have inLine : page.margin = [] := by
    have none : page.indentation = 0 := flush
    simp [Page.margin, none]
  obtain ⟨wrote, _⟩ := Page.emit_wrote accepted event
  rw [emit_inner_of_calm calm]
  refine ⟨?_, rfl, wrote.accepted, ?_⟩
  · rw [← adds page inLine, ← Page.added_eq]
    exact wrote.text
  · show (page.emit event).indentation = 0
    rw [Page.emit_eq, ← level, ← flush]
    rfl

theorem Shows.enter (shows : spaced.Shows text last) (node : Node) :
    (Writer.emit spaced (.enter node)).Shows text last := by
  have later : (Writer.emit spaced (.enter node)).Shows (text ++ "") last := shows.emit rfl rfl fun _ _ => rfl
  rwa [String.append_empty] at later

theorem Shows.leave (shows : spaced.Shows text last) (node : Node) :
    (Writer.emit spaced (.leave node)).Shows text last := by
  have later : (Writer.emit spaced (.leave node)).Shows (text ++ "") last := shows.emit rfl rfl fun _ _ => rfl
  rwa [String.append_empty] at later

theorem Shows.name (shows : spaced.Shows text last) (apart : last ≠ .word) (name : String)
    (tokenClass : TokenClass) :
    (Writer.emit spaced (.identifier name tokenClass)).Shows (text ++ name) .word :=
  shows.emit (by simpa [LastWritten.needsSpace] using apart) rfl fun page inLine => by
    simp [Page.pieces, Event.texts, inLine]

theorem Shows.dot (shows : spaced.Shows text last) :
    (Writer.emit spaced (.token .dot ".")).Shows (text ++ ".") .other :=
  shows.emit rfl rfl fun page inLine => by simp [Page.pieces, Event.texts, inLine]

end Spaced

theorem Dotted.shows (policy : Policy) {found : TypeRef} {names : List String} (dotted : Dotted found names)
    (complete : "" ∉ names) {above : Frames} (only : above.OnlyTypes) (address : List Nat)
    (atLineStart : Bool) {spaced : Spaced (Page String)} {text : String} {last : LastWritten}
    (shows : spaced.Shows text last) (apart : last ≠ .word) :
    (Writer.emitAll spaced
      (settled atLineStart (Layout.steps policy (Node.ofType found) address above))).Shows
      (text ++ ".".intercalate (names.map escapedPart)) .word := by
  induction dotted generalizing above address atLineStart spaced text last with
  | named name =>
      have given : name ≠ "" := by simpa [eq_comm] using complete
      have spelled := (only.cons (.named { name }) address).escaped name
      show (Writer.emitAll spaced
        (settled atLineStart (Layout.steps policy (.type (.named { name })) address above))).Shows
        _ _
      rw [Layout.steps_named, settled, settled, Layout.settled_nameSteps _ given, spelled]
      exact ((shows.enter _).name apart _ _).leave _
  | @inside target names name dotted ih =>
      obtain ⟨earlier, given⟩ : "" ∉ names ∧ name ≠ "" := by simpa [eq_comm] using complete
      have inner := only.cons (target.inside { name }) address
      have front :=
        ih earlier inner (0 :: address) atLineStart (shows.enter (.type (target.inside { name }))) apart
      have joined : ".".intercalate ((names ++ [name]).map escapedPart) =
          ".".intercalate (names.map escapedPart) ++ "." ++ escapedPart name := by
        rw [List.map_append,
          String.intercalate_append_of_ne_nil (by simpa using dotted.names_ne_nil) (by simp)]
        simp
      show (Writer.emitAll spaced
        (settled atLineStart (Layout.steps policy (.type (target.inside { name })) address above))).Shows _ _
      rw [Layout.steps_inside, settled, settled, settled_append, settled, Layout.settled_nameSteps _ given,
        inner.escaped, Writer.emitAll_cons, Writer.emitAll_append, joined, ← String.append_assoc,
        ← String.append_assoc]
      exact (front.dot.name (by decide) _ _).leave _

theorem printNode_dotted (policy : Policy) {found : TypeRef} {names : List String}
    (dotted : Dotted found names) :
    if "" ∈ names then
      ∃ kind path, printNode policy (Node.ofType found) =
        .error (.malformedTree kind path Problem.emptyName.message)
    else printNode policy (Node.ofType found) = .ok (".".intercalate (names.map escapedPart)) := by
  have faults := Layout.firstFault?_dotted policy dotted [] []
  split
  next missing =>
    rw [if_pos missing] at faults
    obtain ⟨fault, stops, cause⟩ := Option.map_eq_some_iff.mp faults
    refine ⟨fault.innermostKind, fault.path, ?_⟩
    have failed : events policy (Node.ofType found) = .error fault.toError := by
      rw [events_eq, Layout.trace, stops]
    rw [printNode_of_error failed, Fault.toError, cause]
  next complete =>
    rw [if_neg complete] at faults
    have printed : events policy (Node.ofType found) =
        .ok (settled true (Layout.steps policy (Node.ofType found) [] [])) := by
      rw [events_eq, Layout.trace, Option.map_eq_none_iff.mp faults]
    have empty : (⟨Page.ofPolicy policy "", .whitespace⟩ : Spaced (Page String)).Shows "" .whitespace :=
      ⟨rfl, rfl, rfl, rfl⟩
    have nothing : Frames.OnlyTypes [] := fun _ member => absurd member List.not_mem_nil
    have shown := dotted.shows policy complete nothing [] true empty (by decide)
    rw [printNode_of_events printed]
    exact congrArg Except.ok (shown.text.trans String.empty_append)

/-- Printing the type that a dotted text stands for fails exactly if a part of the text between its dots is
empty, and then for that reason; otherwise it writes the text again, with `@` before each part that is a
keyword everywhere. -/
theorem qualified_names_print (policy : Policy) (text : String) :
    let parts := Text.split '.' text
    let printed := printNode policy (Node.ofType (.qualified text))
    (".".intercalate parts = text ∧ ∀ part ∈ parts, '.' ∉ part.toList) ∧
      ((∃ error, printed = .error error) ↔ "" ∈ parts) ∧
      (∀ error, printed = .error error → error.kind = .malformedTree) ∧
      ("" ∉ parts → printed =
        .ok (".".intercalate (parts.map fun part => if part ∈ unconditionalKeywords then "@" ++ part
          else part))) ∧
      ("" ∉ parts → (∀ part ∈ parts, part ∉ unconditionalKeywords) → printed = .ok text) := by
  intro parts printed
  have joined : ".".intercalate parts = text := Text.intercalate_split '.' text
  have outcome : if "" ∈ parts then
      ∃ kind path, printed = .error (.malformedTree kind path Problem.emptyName.message)
    else printed = .ok (".".intercalate (parts.map escapedPart)) := printNode_dotted policy (.qualified text)
  refine ⟨⟨joined, fun part member => Text.not_mem_of_mem_split member⟩, ?_⟩
  by_cases missing : "" ∈ parts
  · rw [if_pos missing] at outcome
    obtain ⟨kind, path, failed⟩ := outcome
    refine ⟨iff_of_true ⟨_, failed⟩ missing, ?_, absurd missing, absurd missing⟩
    intro error same
    rw [failed] at same
    rw [← Except.error.inj same]
    rfl
  · rw [if_neg missing] at outcome
    refine ⟨iff_of_false ?_ missing, ?_, fun _ => outcome, fun _ plain => ?_⟩
    · rintro ⟨error, failed⟩
      rw [outcome] at failed
      cases failed
    · intro error failed
      rw [outcome] at failed
      cases failed
    · have same : parts.map escapedPart = parts := by
        refine (List.map_congr_left fun part member => ?_).trans (List.map_id parts)
        exact if_neg (plain part member)
      rw [outcome, same, joined]

/-- `event` is a keyword everywhere, `await` is one in asynchronous functions only. -/
example : (Text.split '.' "System.event.await").map escapedPart = ["System", "@event", "await"] := by decide

end CSharpLayout
