import Mathlib.Data.List.TakeWhile
import CSharpLayout.Command.Run

/-! Paths and the places they lead to. A path that ends in a proper name leads to the entry of that name in
the place of its directory, whether the entry is looked up or written, and the path of an output ends in
such a name. -/

namespace CSharpLayout

namespace Path

def IsSegment (part : String) : Prop := '/' ∉ part.toList

structure IsName (name : String) : Prop where
  segment : IsSegment name
  nonempty : name ≠ ""
  notHere : name ≠ "."
  notAbove : name ≠ ".."

structure IsPrinted (name : String) : Prop where
  segment : IsSegment name
  ending : ∃ stem, name = stem ++ ".cs"

theorem IsPrinted.isName {name : String} (printed : IsPrinted name) : IsName name := by
  obtain ⟨segment, stem, rfl⟩ := printed
  have last : (stem ++ ".cs").toList.getLast? = some 's' := by simp
  refine ⟨segment, ?_, ?_, ?_⟩ <;>
    · intro same
      rw [same] at last
      simp at last

section Segments

theorem isSegment_of_mem {path part : String} (member : part ∈ segments path) : IsSegment part :=
  Text.not_mem_of_mem_split member

theorem segments_ofSegments {parts : List String} (nonempty : parts ≠ [])
    (all : ∀ part ∈ parts, IsSegment part) :
    segments (ofSegments parts) = parts := by
  have apart : ∀ chars ∈ parts.map String.toList, '/' ∉ chars := by
    intro chars member
    obtain ⟨part, inside, rfl⟩ := List.mem_map.mp member
    exact all part inside
  have joined : (ofSegments parts).toList = ['/'].intercalate (parts.map String.toList) := by
    rw [ofSegments, String.toList_intercalate]
    rfl
  rw [segments, Text.split, joined, List.splitOn_intercalate _ apart (by simpa using nonempty)]
  simp

theorem ofSegments_concat (init : List String) (last : String) :
    ∃ before, ofSegments (init ++ [last]) = before ++ last := by
  cases init with
  | nil => exact ⟨"", by simp [ofSegments]⟩
  | cons first rest =>
      refine ⟨ofSegments (first :: rest) ++ "/", ?_⟩
      rw [ofSegments, ofSegments, String.intercalate_append_of_ne_nil (by simp) (by simp),
        String.intercalate_singleton]

theorem isAbsolute_ofSegments {first : String} {rest : List String} (segment : IsSegment first) :
    isAbsolute (ofSegments (first :: rest)) = (decide (first = "") && !rest.isEmpty) := by
  have head : first.toList.head? ≠ some '/' := fun slash => segment (List.mem_of_head? slash)
  unfold isAbsolute ofSegments
  by_cases empty : first = ""
  · subst empty
    cases rest <;> simp [String.intercalate_cons_cons]
  · have some : first.toList ≠ [] := by simpa using empty
    obtain ⟨char, chars, shape⟩ := List.exists_cons_of_ne_nil some
    rw [shape] at head
    cases rest <;> simp_all [String.intercalate_cons_cons]

end Segments

section Significant

theorem significant_concat {parts : List String} {name : String} (proper : IsName name) :
    significant (parts ++ [name]) = parts ++ [name] := by
  cases parts with
  | nil => rfl
  | cons first rest => simp [significant, proper.nonempty, proper.notHere]

theorem eq_significant_append (parts : List String) :
    ∃ trailing, parts = significant parts ++ trailing ∧ ∀ part ∈ trailing, part = "" ∨ part = "." := by
  cases parts with
  | nil => exact ⟨[], rfl, by simp⟩
  | cons first rest =>
      refine ⟨(rest.reverse.takeWhile fun part => part == "" || part == ".").reverse, ?_, ?_⟩
      · rw [significant, List.cons_append, ← List.reverse_append, List.takeWhile_append_dropWhile,
          List.reverse_reverse]
      · intro part member
        have passed := List.mem_takeWhile_imp (List.mem_reverse.mp member)
        simpa using passed

theorem mem_of_mem_significant {parts : List String} {part : String} (member : part ∈ significant parts) :
    part ∈ parts := by
  obtain ⟨trailing, same, -⟩ := eq_significant_append parts
  rw [same]
  exact List.mem_append_left _ member

theorem significant_cons_cases (first : String) (rest : List String) :
    significant (first :: rest) = [""] ∨
      ∃ init last, significant (first :: rest) = init ++ [last] ∧ last ≠ "" := by
  rw [significant]
  rcases List.eq_nil_or_concat (rest.reverse.dropWhile fun part => part == "" || part == ".").reverse with
    none | ⟨init, last, shape⟩
  · rw [none]
    by_cases empty : first = ""
    · exact .inl (by rw [empty])
    · exact .inr ⟨[], first, rfl, empty⟩
  · refine .inr ⟨first :: init, last, by rw [shape]; simp, fun empty => ?_⟩
    have dropped : (rest.reverse.dropWhile fun part => part == "" || part == ".") = last :: init.reverse := by
      rw [← List.reverse_reverse (List.dropWhile _ _), shape]
      simp
    have kept := List.head?_dropWhile_not (fun part => part == "" || part == ".") rest.reverse
    rw [dropped] at kept
    simp [empty] at kept

def directoryText : List String → String
  | [] => ""
  | first :: rest =>
      match significant (first :: rest) with
      | [""] => "/"
      | above => ofSegments above

theorem directoryText_of_ne {first : String} {rest : List String}
    (other : significant (first :: rest) ≠ [""]) :
    directoryText (first :: rest) = ofSegments (significant (first :: rest)) := by
  rw [directoryText]
  split
  · rename_i same
    exact absurd same other
  · rfl

variable {path name : String} {directory : List String}

theorem fileName?_of_shape (shape : significant (segments path) = directory ++ [name])
    (proper : IsName name) :
    fileName? path = some name := by
  simp [fileName?, shape, proper.nonempty, proper.notHere, proper.notAbove]

theorem shape_of_fileName? (found : fileName? path = some name) :
    ∃ directory, significant (segments path) = directory ++ [name] ∧ (∀ part ∈ directory, IsSegment part) ∧
      IsName name := by
  unfold fileName? at found
  split at found
  · cases found
  · rename_i last final
    split at found
    · cases found
    · rename_i proper
      obtain rfl := Option.some.inj found
      obtain ⟨directory, shape⟩ := List.getLast?_eq_some_iff.mp final
      have all : ∀ part ∈ directory ++ [last], IsSegment part := by
        intro part member
        exact isSegment_of_mem (mem_of_mem_significant (shape ▸ member))
      have different : last ≠ "" ∧ last ≠ "." ∧ last ≠ ".." := by
        simpa [not_or, and_assoc] using proper
      exact ⟨directory, shape, fun part member => all part (by simp [member]),
        ⟨all last (by simp), different.1, different.2.1, different.2.2⟩⟩

theorem parent?_of_shape (shape : significant (segments path) = directory ++ [name]) (proper : IsName name) :
    parent? path = some (directoryText directory) := by
  unfold parent?
  cases directory with
  | nil => simp [shape, proper.nonempty, directoryText]
  | cons first rest =>
      have dropped : (first :: rest ++ [name]).dropLast = first :: rest := List.dropLast_concat
      rw [shape]
      split
      · rename_i none
        simp at none
      · rename_i only
        simp at only
      · rw [dropped]
        split
        · rename_i top
          simp [directoryText, top]
        · rename_i other
          rw [directoryText_of_ne other]

theorem significant_ofSegments (all : ∀ part ∈ directory, IsSegment part) (proper : IsName name) :
    segments (ofSegments (directory ++ [name])) = directory ++ [name] ∧
      significant (segments (ofSegments (directory ++ [name]))) = directory ++ [name] := by
  have same : segments (ofSegments (directory ++ [name])) = directory ++ [name] := by
    refine segments_ofSegments (by simp) fun part member => ?_
    rcases List.mem_append.mp member with inside | last
    · exact all part inside
    · rw [List.mem_singleton.mp last]
      exact proper.segment
  exact ⟨same, by rw [same, significant_concat proper]⟩

end Significant

section Outputs

theorem join_directoryText {directory : List String} {name : String}
    (all : ∀ part ∈ directory, IsSegment part) (proper : IsName name) :
    join (directoryText directory) name = ofSegments (significant directory ++ [name]) := by
  have relative : isAbsolute name = false := by
    have head : name.toList.head? ≠ some '/' := fun slash => proper.segment (List.mem_of_head? slash)
    simpa [isAbsolute] using head
  cases directory with
  | nil => simp [join, directoryText, significant, ofSegments]
  | cons first rest =>
      rcases significant_cons_cases first rest with top | ⟨init, last, shape, nonempty⟩
      · simp [join, directoryText, top, relative, ofSegments, String.intercalate_cons_cons]
      · have other : significant (first :: rest) ≠ [""] := by
          intro same
          have final := congrArg List.getLast? (same.symm.trans shape)
          simp [nonempty.symm] at final
        have segment : IsSegment last := all last (mem_of_mem_significant (by simp [shape]))
        obtain ⟨before, text⟩ := ofSegments_concat init last
        obtain ⟨front, char, chars⟩ :=
          (List.eq_nil_or_concat last.toList).resolve_left (by simpa using nonempty)
        have final : (before ++ last).toList.getLast? ≠ some '/' := by
          have different : char ≠ '/' := fun same => segment (by simp [chars, same])
          simpa [chars] using different
        have filled : (before ++ last).isEmpty = false := by simp [nonempty]
        rw [directoryText_of_ne other, join, shape, text]
        simp only [relative, filled, Bool.or_self, Bool.false_eq_true, if_false, beq_iff_eq, final]
        rw [← text, ofSegments, ofSegments, String.intercalate_append_of_ne_nil (l := init ++ [last])
          (by simp) (by simp),
          String.intercalate_singleton]

theorem splitExtension_fst (name : String) : ∃ rest, name = (splitExtension name).1 ++ rest := by
  unfold splitExtension
  obtain ⟨init, last, shape⟩ :=
    (List.eq_nil_or_concat (Text.split '.' name)).resolve_left (Text.split_ne_nil _ _)
  have whole := Text.intercalate_split '.' name
  simp only [shape, List.concat_eq_append, List.getLast?_concat, List.dropLast_concat]
  split
  · exact ⟨"", by simp⟩
  · rename_i filled
    cases init with
    | nil => simp at filled
    | cons first rest =>
        refine ⟨"." ++ last, ?_⟩
        rw [shape, List.concat_eq_append, String.intercalate_append_of_ne_nil (by simp) (by simp),
          String.intercalate_singleton] at whole
        rw [← String.append_assoc]
        exact whole.symm

theorem isSegment_of_append {left right : String} (segment : IsSegment (left ++ right)) : IsSegment left := by
  simp only [IsSegment, String.toList_append, List.mem_append, not_or] at segment
  exact segment.1

theorem isPrinted_append {stem : String} (segment : IsSegment stem) : IsPrinted (stem ++ ".cs") := by
  refine ⟨?_, stem, rfl⟩
  simp only [IsSegment, String.toList_append, List.mem_append, not_or]
  exact ⟨segment, by decide⟩

theorem ofExtension?_printed {name : String} (printed : IsPrinted name) :
    ConfigFormat.ofExtension? (splitExtension name).2 = none := by
  obtain ⟨-, stem, rfl⟩ := printed
  have parts : Text.split '.' (stem ++ ".cs") = Text.split '.' stem ++ ["cs"] := by
    rw [← Text.split_append (by decide)]
    congr 1
    rw [String.append_assoc]
    rfl
  unfold splitExtension
  simp only [parts, List.getLast?_concat]
  split <;> rfl

end Outputs

end Path

namespace Command

open CSharpLayout.Path

theorem isSegment_treeStem {name stem : String} (segment : IsSegment name)
    (found : treeStem? name = some stem) :
    IsSegment stem := by
  unfold treeStem? at found
  simp only at found
  split at found
  · obtain rfl := Option.some.inj found
    unfold IsSegment
    rw [String.toList_ofList]
    exact fun slash => segment (List.mem_of_mem_take slash)
  · cases found

/-- The text of a named file goes to an entry of some directory whose name is that of an output. -/
theorem outputPath_shape {input name : String} (named : fileName? input = some name) :
    ∃ directory target, outputPath input = ofSegments (directory ++ [target]) ∧
      (∀ part ∈ directory, IsSegment part) ∧ IsPrinted target := by
  obtain ⟨directory, shape, all, proper⟩ := shape_of_fileName? named
  unfold outputPath
  rw [named, Option.bind_some]
  cases found : treeStem? name with
  | some stem =>
      have printed := isPrinted_append (isSegment_treeStem proper.segment found)
      refine ⟨significant directory, stem ++ ".cs", ?_,
        fun part member => all part (mem_of_mem_significant member), printed⟩
      show withFileName input (stem ++ ".cs") = _
      rw [withFileName, parent?_of_shape shape proper, Option.getD_some,
        join_directoryText all printed.isName]
  | none =>
      obtain ⟨rest, whole⟩ := splitExtension_fst name
      have segment : IsSegment (splitExtension name).1 := isSegment_of_append (whole ▸ proper.segment)
      refine ⟨directory, (splitExtension name).1 ++ ".cs", ?_, all, isPrinted_append segment⟩
      show withExtension input "cs" = _
      simp only [withExtension, named, shape, List.dropLast_concat]
      rw [String.append_assoc]
      rfl

end Command

end CSharpLayout
