/-! Texts cut at a separator. -/

namespace CSharpLayout

namespace Text

def split (separator : Char) (text : String) : List String :=
  (text.toList.splitOn separator).map String.ofList

theorem split_append {separator : Char} {left right : String} (outside : separator ∉ right.toList) :
    split separator (left ++ String.singleton separator ++ right) = split separator left ++ [right] := by
  have parts : (left ++ String.singleton separator ++ right).toList = left.toList ++ separator ::
      right.toList := by
    simp
  rw [split, split, parts, List.splitOn_append_cons_self, List.splitOn_eq_singleton outside, List.map_append,
    List.map_singleton, String.ofList_toList]

theorem split_ne_nil (separator : Char) (text : String) : split separator text ≠ [] := by
  simp [split, List.splitOn_ne_nil]

theorem intercalate_split (separator : Char) (text : String) :
    (String.singleton separator).intercalate (split separator text) = text := by
  apply String.toList_inj.mp
  rw [String.toList_intercalate, split, List.map_map]
  simp [Function.comp_def, List.intercalate_splitOn]

theorem not_mem_of_mem_splitOn {separator : Char} {text part : List Char}
    (member : part ∈ text.splitOn separator) :
    separator ∉ part := by
  induction text generalizing part with
  | nil => simp_all
  | cons first rest ih =>
      rw [List.splitOn_cons_eq_if_modifyHead] at member
      split at member
      · rcases List.mem_cons.mp member with rfl | later
        · simp
        · exact ih later
      · rename_i different
        cases parts : rest.splitOn separator with
        | nil => exact absurd parts (by simp)
        | cons head tail =>
            rw [parts] at ih member
            rcases List.mem_cons.mp member with rfl | later
            · have outside : separator ∉ head := ih (by simp)
              simp only [List.mem_cons, not_or]
              exact ⟨fun same => different (by simp [same]), outside⟩
            · exact ih (by simp [later])

theorem not_mem_of_mem_split {separator : Char} {text part : String} (member : part ∈ split separator text) :
    separator ∉ part.toList := by
  obtain ⟨chars, inside, rfl⟩ := List.mem_map.mp member
  rw [String.toList_ofList]
  exact not_mem_of_mem_splitOn inside

end Text

end CSharpLayout
