import CSharpLayout.Proofs.Inheritance
import CSharpLayout.Proofs.Places

/-! Writing outputs and comparing them afterwards. Outputs that were written change neither which tree files
are found nor the policy, so a second run finds every text in its place unless an output took the place of a
tree file or of another output. -/

namespace CSharpLayout

open FileTree

variable {old new : FileTree} {base place : Place}

namespace Config

theorem not_isOutput_of_parsePlace {tree : FileTree} {config : Config}
    (parsed : parsePlace tree place = .ok config) :
    ¬place.IsOutput := by
  rintro ⟨above, name, rfl, printed⟩
  obtain ⟨front, path⟩ : ∃ front, (above.child name).path = front ++ String.singleton '/' ++ name := by
    cases names : above.names with
    | nil => exact ⟨"", by simp [Place.path, Place.child, names, Path.ofSegments]⟩
    | cons first rest =>
        refine ⟨"/" ++ Path.ofSegments (first :: rest), ?_⟩
        rw [Place.path, Place.child, names, Path.ofSegments,
          String.intercalate_append_of_ne_nil (by simp) (by simp), String.intercalate_singleton,
          ← String.append_assoc, ← String.append_assoc]
        rfl
  have shape : Path.significant (Path.segments (above.child name).path) = Path.segments front ++ [name] := by
    rw [path, Path.segments, Text.split_append printed.segment, Path.significant_concat printed.isName]
    rfl
  obtain ⟨text, held⟩ := content_of_parsePlace parsed
  simp only [parsePlace, readAt, held, ofContent, Path.extension?,
    Path.fileName?_of_shape shape printed.isName, Option.bind_some, ofText,
    Path.ofExtension?_printed printed] at parsed
  cases parsed

theorem FoundAt.later (differs : DiffersInOutputs old new) {path : String} {config : Config}
    (found : FoundAt old base path place config) : FoundAt new base path place config := by
  refine ⟨differs.resolve found.resolved, ?_⟩
  have same := differs.contents place (not_isOutput_of_parsePlace found.parsed)
  obtain ⟨text, held⟩ := content_of_parsePlace found.parsed
  have parsed := found.parsed
  simp only [parsePlace, readAt, same, held] at parsed ⊢
  exact parsed

end Config

namespace Command

section Reading

end Reading

section Writing

inductive Wrote (base : Place) : FileTree → List (String × String) → FileTree → Prop
  | nil (tree : FileTree) : Wrote base tree [] tree
  | cons {tree middle new : FileTree} {path text : String} {rest : List (String × String)} :
      tree.write base (outputPath path) text = .ok middle → Wrote base middle rest new →
        Wrote base tree ((path, text) :: rest) new

variable {texts : List (String × String)}

theorem Wrote.differs (wrote : Wrote base old texts new) : DiffersInOutputs old new := by
  induction wrote with
  | nil tree => exact .refl tree
  | cons written _ ih =>
      obtain ⟨place, -, -, differs⟩ := writeOutput_eq_ok written
      exact differs.trans ih

theorem Wrote.untouched (wrote : Wrote base old texts new)
    (elsewhere : ∀ file ∈ texts, new.resolve base (outputPath file.1) ≠ .ok place) :
    new.content? place = old.content? place := by
  induction wrote with
  | nil tree => rfl
  | @cons tree middle new path text rest written later ih =>
      obtain ⟨target, rfl, resolved, -⟩ := writeOutput_eq_ok written
      have different : place ≠ target := by
        rintro rfl
        exact elsewhere (path, text) (by simp) (later.differs.resolve resolved)
      rw [ih fun file member => elsewhere file (by simp [member]), content?_writeAt, if_neg different]

/-- In the place of every output stands the text of some file with that output: the one that was written
last. -/
theorem Wrote.last (wrote : Wrote base old texts new) {file : String × String} (member : file ∈ texts) :
    ∃ other ∈ texts, new.resolve base (outputPath other.1) = new.resolve base (outputPath file.1) ∧
      new.read base (outputPath file.1) = .ok other.2 := by
  induction wrote generalizing file with
  | nil tree => simp at member
  | @cons tree middle new path text rest written later ih =>
      rcases List.mem_cons.mp member with rfl | inRest
      · obtain ⟨target, rfl, resolved, -⟩ := writeOutput_eq_ok written
        have stays := later.differs.resolve resolved
        by_cases again : ∃ other ∈ rest, new.resolve base (outputPath other.1) = .ok target
        · obtain ⟨other, inRest, same⟩ := again
          obtain ⟨winner, found, agrees, held⟩ := ih inRest
          refine ⟨winner, by simp [found], agrees.trans (same.trans stays.symm), ?_⟩
          rw [FileTree.read, stays]
          rw [FileTree.read, same] at held
          exact held
        · have untouched : new.content? target = some text := by
            rw [later.untouched fun other inRest same => again ⟨other, inRest, same⟩,
              content?_writeAt, if_pos rfl]
          refine ⟨(path, text), by simp, rfl, ?_⟩
          rw [FileTree.read, stays]
          show new.readAt target = _
          rw [readAt, untouched]
      · obtain ⟨winner, found, agrees, held⟩ := ih inRest
        exact ⟨winner, by simp [found], agrees, held⟩

end Writing

namespace Progress

variable {mode : PrintMode} {many : Bool} {progress : Progress}

def rendered (texts : List (String × String)) : List (String × Except Error String) :=
  texts.map fun file => (file.1, .ok file.2)

section Step

variable {path text : String}

end Step

variable {texts : List (String × String)}

end Progress

section Runs

variable {tree : FileTree} {invocation : Invocation} {inputs files : List String} {policy : Policy}
    {mode : PrintMode}

end Runs

end Command

end CSharpLayout
