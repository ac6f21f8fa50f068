import CSharpLayout.Node.Fragment

/-! Records in JSON that are read back as they were written. A record is written as a list of fields, of
which some are left out; since the names differ, every field finds its own value again. -/

namespace CSharpLayout

abbrev Fields := List (String × Option Json)

def Cell.of : Option Json → Cell
  | none => .absent
  | some value => .present value

namespace Fields

def entries : Fields → List (String × Json)
  | [] => []
  | (name, value) :: rest => Json.entryOf name value ++ entries rest

def cells (fields : Fields) : List Cell := fields.map fun field => Cell.of field.2

def Fit (levels : Nat) : Fields → Prop
  | [] => True
  | (_, value) :: rest => (∀ json ∈ value, json.depth ≤ levels) ∧ Fit levels rest

def Readable : Fields → Prop
  | [] => True
  | (_, value) :: rest => (∀ json ∈ value, json.isReadable = true) ∧ Readable rest

section Cells

theorem withKey_entryOf (key name : String) (value : Option Json) :
    Row.withKey key (Json.entryOf name value) = if name = key then Json.entryOf name value else [] := by
  cases value <;> by_cases same : name = key <;> simp [Row.withKey, Json.entryOf, same]

theorem withKey_entries_of_not_mem {key : String} {fields : Fields} (other : key ∉ fields.map Prod.fst) :
    Row.withKey key fields.entries = [] := by
  induction fields with
  | nil => rfl
  | cons field rest ih =>
      obtain ⟨name, value⟩ := field
      simp only [List.map_cons, List.mem_cons, not_or] at other
      have first := withKey_entryOf key name value
      rw [if_neg (Ne.symm other.1)] at first
      rw [entries, Row.withKey, List.filter_append, ← Row.withKey, ← Row.withKey, first, ih other.2]
      rfl

theorem withKey_entries {name : String} {value : Option Json} {fields : Fields}
    (distinct : (fields.map Prod.fst).Nodup) (member : (name, value) ∈ fields) :
    Row.withKey name fields.entries = Json.entryOf name value := by
  induction fields with
  | nil => simp at member
  | cons field rest ih =>
      obtain ⟨other, found⟩ := field
      obtain ⟨fresh, later⟩ := List.nodup_cons.mp distinct
      rw [entries, Row.withKey, List.filter_append, ← Row.withKey, ← Row.withKey, withKey_entryOf]
      rcases List.mem_cons.mp member with same | inRest
      · obtain ⟨rfl, rfl⟩ := Prod.mk.inj same
        rw [if_pos rfl, withKey_entries_of_not_mem fresh, List.append_nil]
      · have different : other ≠ name := by
          rintro rfl
          exact fresh (List.mem_map.mpr ⟨(other, value), inRest, rfl⟩)
        rw [if_neg different, List.nil_append, ih later inRest]

theorem entryCell?_entries {name : String} {value : Option Json} {fields : Fields}
    (distinct : (fields.map Prod.fst).Nodup) (member : (name, value) ∈ fields) :
    Row.entryCell? fields.entries name = some (Cell.of value) := by
  rw [Row.entryCell?, withKey_entries distinct member]
  cases value <;> rfl

theorem mapM_eq_some {α β : Type} {items : List α} {read : α → Option β} {result : α → β}
    (each : ∀ item ∈ items, read item = some (result item)) : items.mapM read = some (items.map result) := by
  induction items with
  | nil => rfl
  | cons item rest ih =>
      rw [List.mapM_cons, each item (by simp), ih fun item member => each item (by simp [member])]
      rfl

theorem cells?_entries {fields : Fields} (distinct : (fields.map Prod.fst).Nodup) :
    (Row.named fields.entries).cells? (fields.map Prod.fst) = some fields.cells := by
  have each : ∀ field ∈ fields, Row.entryCell? fields.entries field.1 = some (Cell.of field.2) :=
    fun field member => entryCell?_entries distinct member
  rw [Row.cells?, List.mapM_map]
  exact mapM_eq_some each

end Cells

section Levels

theorem fit_iff {levels : Nat} {fields : Fields} :
    Json.depthOfEntries fields.entries ≤ levels ↔ fields.Fit levels := by
  induction fields with
  | nil => simp [entries, Json.depthOfEntries, Fit]
  | cons field rest ih =>
      obtain ⟨name, value⟩ := field
      cases value with
      | none => simpa [entries, Json.entryOf, Fit] using ih
      | some json =>
          have both : Json.depthOfEntries (entries ((name, some json) :: rest)) ≤ levels ↔
              json.depth ≤ levels ∧ Json.depthOfEntries (entries rest) ≤ levels := Nat.max_le
          simp [both, Fit, ih]

theorem fit_of_depth {levels : Nat} {fields : Fields} (fits : (Json.object fields.entries).depth ≤ levels) :
    fields.Fit levels := by
  rw [Json.depth] at fits
  exact fit_iff.mp (by omega)

theorem readable_iff {fields : Fields} : Json.haveReadable fields.entries = true ↔ fields.Readable := by
  induction fields with
  | nil => simp [entries, Json.haveReadable, Readable]
  | cons field rest ih =>
      obtain ⟨name, value⟩ := field
      cases value with
      | none => simpa [entries, Json.entryOf, Readable] using ih
      | some json => simp [entries, Json.entryOf, Readable, Json.haveReadable, ih]

end Levels

end Fields

namespace Json

def listed (items : List Json) : Option Json := if items.isEmpty then none else some (.array items)

def flagged (flag : Bool) : Option Json := if flag then some (.bool true) else none

theorem entryOfList_eq (key : String) (items : List Json) :
    entryOfList key items = entryOf key (listed items) := by
  unfold entryOfList listed
  split <;> rfl

theorem entryOfFlag_eq (key : String) (flag : Bool) : entryOfFlag key flag = entryOf key (flagged flag) := by
  cases flag <;> rfl

theorem depthOfItems_le {levels : Nat} {items : List Json} :
    depthOfItems items ≤ levels ↔ ∀ item ∈ items, item.depth ≤ levels := by
  induction items with
  | nil => simp [depthOfItems]
  | cons item rest ih =>
      rw [depthOfItems, Nat.max_le, ih]
      simp

theorem areReadable_iff {items : List Json} :
    areReadable items = true ↔ ∀ item ∈ items, item.isReadable = true := by
  induction items with
  | nil => simp [areReadable]
  | cons item rest ih => simp [areReadable, ih]

end Json

section Restoring

variable {α β : Type}

structure Restores (read : Json → Option α) (json : Json) (value : α) : Prop where
  readable : json.isReadable = true
  present : json.isNull = false
  reads : read json = some value

structure RestoresCell (read : Cell → Option α) (field : Option Json) (value : α) : Prop where
  readable : ∀ json ∈ field, json.isReadable = true
  reads : read (Cell.of field) = some value

structure RestoresRow (read : Row → Option α) (fields : Fields) (value : α) : Prop where
  readable : fields.Readable
  reads : read (.named fields.entries) = some value

structure RestoresCells (result : Option α) (fields : Fields) (value : α) : Prop where
  readable : fields.Readable
  reads : result = some value

namespace RestoresCells

theorem nil {value : α} : RestoresCells (some value) [] value := ⟨trivial, rfl⟩

theorem cons {read : Cell → Option β} {name : String} {field : Option Json} {first : β} {next : β → Option α}
    {fields : Fields} {value : α} (cell : RestoresCell read field first)
    (rest : RestoresCells (next first) fields value) :
    RestoresCells (read (Cell.of field) >>= next) ((name, field) :: fields) value := by
  refine ⟨⟨cell.readable, rest.readable⟩, ?_⟩
  rw [cell.reads]
  exact rest.reads

end RestoresCells

namespace RestoresRow

theorem of_cells {names : List String} {build : List Cell → Option α} {fields : Fields} {value : α}
    (named : fields.map Prod.fst = names) (distinct : names.Nodup)
    (cells : RestoresCells (build fields.cells) fields value) :
    RestoresRow (record? names build) fields value := by
  subst named
  refine ⟨cells.readable, ?_⟩
  rw [record?, Fields.cells?_entries distinct]
  exact cells.reads

theorem of_cell {read : Cell → Option β} {name : String} {build : List Cell → Option α} {field : Option Json}
    {value : β} (cell : RestoresCell read field value) (make : β → α)
    (built : ∀ cell, build [cell] = (read cell).map make) :
    RestoresRow (record? [name] build) [(name, field)] (make value) := by
  refine of_cells rfl (by simp) ⟨⟨cell.readable, trivial⟩, ?_⟩
  show build [Cell.of field] = some (make value)
  rw [built, cell.reads]
  rfl

theorem map {read : Row → Option β} {fields : Fields} {value : β} (row : RestoresRow read fields value)
    (build : β → α) :
    RestoresRow (fun row => (read row).map build) fields (build value) := by
  refine ⟨row.readable, ?_⟩
  rw [row.reads]
  rfl

theorem unit (value : α) : RestoresRow (unit? value) [] value := ⟨trivial, rfl⟩

theorem object {read : Row → Option α} {fields : Fields} {value : α} (row : RestoresRow read fields value) :
    Restores (recordOf? read) (.object fields.entries) value := by
  refine ⟨?_, rfl, row.reads⟩
  rw [Json.isReadable]
  exact Fields.readable_iff.mpr row.readable

theorem tagAndFields?_tagged {inner : Bool} {key tag : String} {tags : List String} {fields : Fields}
    (known : tags.contains tag = true) (free : (fields.map Prod.fst).contains key = false) :
    tagAndFields? inner key tags (Json.tagged key tag fields.entries) =
      some (tag, .named fields.entries) := by
  have other : key ∉ fields.map Prod.fst := by simpa using free
  have none := Fields.withKey_entries_of_not_mem other
  have rest : fields.entries.filter (fun entry => entry.1 != key) = fields.entries := by
    rw [List.filter_eq_self]
    intro entry member
    have outside := List.filter_eq_nil_iff.mp none entry member
    simpa using outside
  have first : Row.withKey key ((key, Json.string tag) :: fields.entries) = [(key, Json.string tag)] := by
    rw [Row.withKey, List.filter_cons, ← Row.withKey, none]
    simp
  rw [Json.tagged, tagAndFields?, first]
  simp only [tagName?, known, if_true, Option.map_some, List.filter_cons, bne_self_eq_false,
    Bool.false_eq_true, if_false, rest]

/-- A tagged value is read back if its fields are, and none of them has the name of the tag. -/
theorem family {inner : Bool} {key tag : String} {tags : List String} {read : String → Row → Option α}
    {fields : Fields} {value : α} (row : RestoresRow (read tag) fields value)
    (known : tags.contains tag = true) (free : (fields.map Prod.fst).contains key = false) :
    Restores (Readers.family inner key tags read) (Json.tagged key tag fields.entries) value := by
  have readable : (Json.tagged key tag fields.entries).isReadable = true := by
    simp only [Json.tagged, Json.isReadable, Json.haveReadable, Bool.true_and]
    exact Fields.readable_iff.mpr row.readable
  refine ⟨readable, rfl, ?_⟩
  rw [Readers.family, tagged?, readable, Bool.or_true, if_pos rfl, tagAndFields?_tagged known free]
  exact row.reads

end RestoresRow

/-- All values that satisfy a condition and whose form has at most so many levels are read back. -/
def RestoresAll (levels : Nat) (read : Json → Option α) (write : α → Json) (condition : α → Prop) : Prop :=
  ∀ value, (write value).depth ≤ levels → condition value → Restores read (write value) value

namespace RestoresAll

variable {levels : Nat} {read : Json → Option α} {write : α → Json} {condition : α → Prop} {value : α}
  {values : List α} {choice : Option α}

theorem required (all : RestoresAll levels read write condition)
    (fits : ∀ json ∈ some (write value), json.depth ≤ levels) (good : condition value) :
    RestoresCell (Cell.required read) (some (write value)) value := by
  have restored := all value (fits _ rfl) good
  exact ⟨by simpa using restored.readable, restored.reads⟩

theorem withDefault (all : RestoresAll levels read write condition) (default : α)
    (fits : ∀ json ∈ some (write value), json.depth ≤ levels) (good : condition value) :
    RestoresCell (Cell.withDefault default read) (some (write value)) value := by
  have restored := all value (fits _ rfl) good
  exact ⟨by simpa using restored.readable, restored.reads⟩

theorem optional (all : RestoresAll levels read write condition)
    (fits : ∀ json ∈ choice.map write, json.depth ≤ levels) (good : ∀ value ∈ choice, condition value) :
    RestoresCell (Cell.optional read) (choice.map write) choice := by
  cases choice with
  | none => exact ⟨by simp, rfl⟩
  | some value =>
      have restored := all value (fits _ rfl) (good value rfl)
      refine ⟨by simpa using restored.readable, ?_⟩
      simp [Cell.of, Cell.optional, Cell.nullable, restored.present, restored.reads]

theorem array (all : RestoresAll levels read write condition) :
    RestoresAll levels (Json.listOf? read) (fun values => .array (values.map write))
      (fun values => ∀ value ∈ values, condition value) := by
  intro values fits good
  have deep : ∀ value ∈ values, (write value).depth ≤ levels := by
    rw [Json.depth] at fits
    have items := Json.depthOfItems_le.mp (show Json.depthOfItems (values.map write) ≤ levels by omega)
    exact fun value member => items _ (List.mem_map_of_mem member)
  have each : ∀ value ∈ values, Restores read (write value) value :=
    fun value member => all value (deep value member) (good value member)
  refine ⟨?_, rfl, ?_⟩
  · rw [Json.isReadable, Json.areReadable_iff]
    intro item member
    obtain ⟨value, inside, rfl⟩ := List.mem_map.mp member
    exact (each value inside).readable
  · show (values.map write).mapM read = some values
    rw [List.mapM_map]
    have restored :=
      @Fields.mapM_eq_some _ _ values (read ∘ write) id fun value member => (each value member).reads
    rwa [List.map_id] at restored

theorem list (all : RestoresAll levels read write condition)
    (fits : ∀ json ∈ some (Json.array (values.map write)), json.depth ≤ levels)
    (good : ∀ value ∈ values, condition value) :
    RestoresCell (Cell.required (Json.listOf? read)) (some (.array (values.map write))) values :=
  all.array.required fits good

theorem listOrNothing (all : RestoresAll levels read write condition)
    (fits : ∀ json ∈ some (Json.array (values.map write)), json.depth ≤ levels)
    (good : ∀ value ∈ values, condition value) :
    RestoresCell (Cell.withDefault [] (Json.listOf? read)) (some (.array (values.map write))) values :=
  all.array.withDefault [] fits good

theorem listed (all : RestoresAll levels read write condition)
    (fits : ∀ json ∈ Json.listed (values.map write), json.depth ≤ levels)
    (good : ∀ value ∈ values, condition value) :
    RestoresCell (Cell.withDefault [] (Json.listOf? read)) (Json.listed (values.map write)) values := by
  cases values with
  | nil => exact ⟨by simp [Json.listed], rfl⟩
  | cons first rest => exact all.listOrNothing fits good

end RestoresAll

def RestoresRows (levels : Nat) (read : Row → Option α) (fields : α → Fields) (condition : α → Prop) : Prop :=
  ∀ value, (fields value).Fit levels → condition value → RestoresRow read (fields value) value

theorem RestoresRows.object {levels : Nat} {read : Row → Option α} {fields : α → Fields}
    {condition : α → Prop} {write : α → Json} (rows : RestoresRows levels read fields condition)
    (shape : ∀ value, write value = .object (fields value).entries) :
    RestoresAll levels (recordOf? read) write condition := by
  intro value fits good
  rw [shape] at fits ⊢
  exact (rows value (Fields.fit_of_depth fits) good).object

end Restoring

end CSharpLayout
