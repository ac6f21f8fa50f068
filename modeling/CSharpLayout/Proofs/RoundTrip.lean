import CSharpLayout.Config.Json
import CSharpLayout.Json.Reader
import CSharpLayout.Proofs.RestoringDeclarations

/-! Documents are read back as they were written: fragments of every type, and configurations. -/

namespace CSharpLayout

open Json

section Clipping

mutual

theorem clip_eq_self : (levels : Nat) → (json : Json) → json.depth ≤ levels → json.clip levels = json
  | levels, .null, _ => by cases levels <;> rfl
  | levels, .refused, _ => by cases levels <;> rfl
  | levels, .bool _, _ => by cases levels <;> rfl
  | levels, .number _, _ => by cases levels <;> rfl
  | levels, .string _, _ => by cases levels <;> rfl
  | 0, .array _, fits => by simp [depth] at fits
  | 0, .object _, fits => by simp [depth] at fits
  | levels + 1, .array items, fits => by
      rw [depth] at fits
      rw [clip, clipItems_eq_self levels items (by omega)]
  | levels + 1, .object entries, fits => by
      rw [depth] at fits
      rw [clip, clipEntries_eq_self levels entries (by omega)]

theorem clipItems_eq_self :
    (levels : Nat) → (items : List Json) → depthOfItems items ≤ levels → clipItems levels items = items
  | _, [], _ => rfl
  | levels, item :: rest, fits => by
      rw [depthOfItems, Nat.max_le] at fits
      rw [clipItems, clip_eq_self levels item fits.1, clipItems_eq_self levels rest fits.2]

theorem clipEntries_eq_self :
    (levels : Nat) → (entries : List (String × Json)) → depthOfEntries entries ≤ levels →
      clipEntries levels entries = entries
  | _, [], _ => rfl
  | levels, (key, value) :: rest, fits => by
      rw [depthOfEntries, Nat.max_le] at fits
      rw [clipEntries, clip_eq_self levels value fits.1, clipEntries_eq_self levels rest fits.2]

end

end Clipping

section Fragments

variable {levels : Nat} {readers : Readers}

/-- Every type of fragment is read back. -/
theorem Faithful.fragment (faithful : Faithful levels readers) (type : FragmentType) :
    RestoresAll levels (type.readWith readers) type.write (Node.ExactAs type.node) := by
  cases type with
  | syntaxTree => exact faithful.syntaxTree
  | namespaceDeclaration =>
      exact faithful.namespaceDeclarationRows.object fun value => congrArg Json.object value.entries_eq
  | usingDeclaration => exact faithful.usingDeclarationRows.object fun _ => rfl
  | usingAlias => exact faithful.usingAliasRows.object fun _ => rfl
  | externAlias => exact fun value fits _ => externAliasRows.object (fun _ => rfl) value fits trivial
  | typeDeclaration =>
      exact faithful.typeDeclarationRows.object fun value => congrArg Json.object value.entries_eq
  | delegate => exact faithful.delegateRows.object fun value => congrArg Json.object value.entries_eq
  | attributeSection => exact faithful.attributeSection
  | attributeUse => exact faithful.attributeUse
  | field => exact faithful.fieldRows.object fun value => congrArg Json.object value.entries_eq
  | fixedField => exact faithful.fixedFieldRows.object fun value => congrArg Json.object value.entries_eq
  | fixedVariable => exact faithful.fixedVariable
  | method => exact faithful.methodRows.object fun value => congrArg Json.object value.entries_eq
  | constructor => exact faithful.constructorRows.object fun value => congrArg Json.object value.entries_eq
  | constructorInitializer => exact faithful.constructorInitializer
  | destructor => exact faithful.destructorRows.object fun value => congrArg Json.object value.entries_eq
  | property => exact faithful.propertyRows.object fun value => congrArg Json.object value.entries_eq
  | indexer => exact faithful.indexerRows.object fun value => congrArg Json.object value.entries_eq
  | accessor => exact faithful.accessor
  | event => exact faithful.eventRows.object fun value => congrArg Json.object value.entries_eq
  | customEvent => exact faithful.customEventRows.object fun value => congrArg Json.object value.entries_eq
  | operator => exact faithful.operatorRows.object fun value => congrArg Json.object value.entries_eq
  | enumMember => exact faithful.enumMemberRows.object fun value => congrArg Json.object value.entries_eq
  | parameter => exact faithful.parameter
  | typeParameter => exact faithful.typeParameter
  | constraint => exact faithful.constraint
  | variableInitializer => exact faithful.variableInitializer
  | documentationReference => exact faithful.documentationReference
  | arraySpecifier => exact fun value fits _ => restoresAll_specifier value fits trivial
  | arrayInitializer => exact faithful.arrayInitializer
  | query => exact faithful.query
  | queryClause => exact faithful.queryClause
  | queryOrdering => exact faithful.queryOrdering
  | block => exact faithful.block
  | variableDeclaration => exact faithful.variableDeclaration
  | switchSection => exact faithful.switchSection
  | caseLabel => exact faithful.caseLabel
  | catchClause => exact faithful.catchClause
  | comment => exact fun value fits _ => restoresRows_comment.object (fun _ => rfl) value fits trivial
  | directive =>
      exact fun value fits _ =>
        restoresRows_directive.object (fun value => congrArg Json.object value.entries_eq) value fits trivial
  | pattern => exact faithful.pattern
  | typeRef => exact faithful.typeRef
  | expression => exact faithful.expression
  | statement => exact faithful.statement
  | namespaceMember => exact faithful.namespaceMember
  | typeMember => exact faithful.typeMember
  | usingResource => exact faithful.usingResource
  | lambdaBody => exact faithful.lambdaBody

/-- The value is written as a tag and fields, and the fields alone, as a record of their own, give the value
back. -/
def ReadsUntagged {α : Type} (read : Readers → String → Row → Option α) (key : String) (json : Json)
    (value : α) :
    Prop :=
  ∃ tag entries, json = tagged key tag entries ∧ ((Json.object entries).depth ≤ documentLevels →
    recordOf? (read (Readers.upTo false (Json.object entries).depth) tag)
      ((Json.object entries).clip documentLevels) =
      some value)

theorem readsUntagged_of_forms {α : Type} {read : Readers → String → Row → Option α} {key : String}
    {write : α → Json} {form : α → Form} {condition : α → Prop} {value : α}
    (shape : ∀ value, write value = (form value).toJson key)
    (forms : ∀ levels, RestoresForms levels (read (Readers.upTo false levels)) form condition)
    (good : condition value) :
    ReadsUntagged read key (write value) value := by
  refine ⟨(form value).tag, (form value).fields.entries, shape value, fun fits => ?_⟩
  rw [clip_eq_self _ _ fits]
  exact (forms _ value (Fields.fit_of_depth (Nat.le_refl _)) good).reads

end Fragments

section Configurations

theorem mem_of_mem_entries {fields : Fields} {entry : String × Json} (member : entry ∈ fields.entries) :
    entry.1 ∈ fields.map Prod.fst := by
  induction fields with
  | nil => simp [Fields.entries] at member
  | cons field rest ih =>
      obtain ⟨name, value⟩ := field
      rw [Fields.entries, List.mem_append] at member
      rcases member with here | later
      · cases value with
        | none => simp [entryOf] at here
        | some json =>
            have same : entry = (name, json) := by simpa [entryOf] using here
            simp [same]
      · exact List.mem_cons_of_mem _ (ih later)

theorem fields?_entries {fields : Fields} {names : List String} (named : fields.map Prod.fst = names)
    (distinct : names.Nodup) :
    Json.dialect.fields? names (.object fields.entries) = some (fields.map Prod.snd) := by
  subst named
  have known : fields.entries.all (fun entry => (fields.map Prod.fst).contains entry.1) = true := by
    rw [List.all_eq_true]
    intro entry member
    simpa using mem_of_mem_entries member
  show namedFields? (fields.map Prod.fst) fields.entries = some (fields.map Prod.snd)
  rw [namedFields?, if_pos known, List.mapM_map]
  refine Fields.mapM_eq_some fun field member => ?_
  have found := Fields.withKey_entries distinct member
  rw [Row.withKey] at found
  rw [Function.comp_apply, found]
  cases field.2 <;> rfl

section Options

variable {α : Type} {read : Json → Option α} {write : α → Json} {choice : Option α}

theorem option?_map (each : ∀ value ∈ choice, read (write value) = some value)
    (present : ∀ value, (write value).isNull = false) :
    Json.dialect.option? read (choice.map write) = some choice := by
  cases choice with
  | none => rfl
  | some value => simp [Dialect.option?, Json.dialect, present, each value rfl]

theorem option?_orNull (each : ∀ value ∈ choice, read (write value) = some value)
    (present : ∀ value, (write value).isNull = false) :
    Json.dialect.option? read (some (orNull write choice)) = some choice := by
  cases choice with
  | none => rfl
  | some value => simp [Dialect.option?, Json.dialect, orNull, present, each value rfl]

theorem choice?_spelled [Spelled α] [LawfulSpelled α] (value : α) :
    Json.dialect.choice? (spelled value) = some value :=
  Spelled.ofSpelling?_spelling value

theorem count?_count {value : Nat} (small : value < UInt64.size) :
    Json.dialect.count? (count value) = some value := by
  have split : ∀ json, Json.dialect.count? json = (uint64? json).map UInt64.toNat := fun _ => rfl
  rw [split, count, uint64?_count small, Option.map_some, UInt64.toNat_ofNat_of_lt' small]

end Options

section Sites

theorem lookup_zip_map {σ β : Type} [DecidableEq σ] (value : σ → β) {sites : List σ} {site : σ}
    (member : site ∈ sites) :
    (sites.zip (sites.map value)).lookup site = some (value site) := by
  induction sites with
  | nil => simp at member
  | cons first rest ih =>
      rw [List.map_cons, List.zip_cons_cons, List.lookup_cons]
      by_cases same : site = first
      · simp [same]
      · rw [beq_eq_false_iff_ne.mpr same]
        exact ih ((List.mem_cons.mp member).resolve_left same)

variable {σ α : Type} [Spelled σ] {read : Json → Option α} {write : α → Json} {options : σ → Option α}

instance : LawfulSpelled BraceSite := ⟨fun site => by cases site <;> decide +kernel, by decide +kernel⟩

instance : LawfulSpelled SpaceSite := ⟨fun site => by cases site <;> decide +kernel, by decide +kernel⟩

def siteFields (write : α → Json) (options : σ → Option α) (sites : List σ) : Fields :=
  sites.map fun site => (Spelled.spelling site, some (orNull write (options site)))

theorem entries_siteFields (sites : List σ) :
    (siteFields write options sites).entries =
      sites.map fun site => (Spelled.spelling site, orNull write (options site)) := by
  induction sites with
  | nil => rfl
  | cons site rest ih =>
      rw [List.map_cons, ← ih]
      rfl

theorem sites?_sitesToJson [LawfulSpelled σ] [DecidableEq σ] (each : ∀ value, read (write value) = some value)
    (present : ∀ value, (write value).isNull = false) :
    Json.dialect.sites? read (sitesToJson write options) = some options := by
  have named : (siteFields write options Spelled.all).map Prod.fst = Spelled.spellings σ := by
    simp [siteFields, Spelled.spellings]
  have looked := fields?_entries named LawfulSpelled.distinct
  have values : ((siteFields write options Spelled.all).map Prod.snd).mapM (Json.dialect.option? read) =
      some (Spelled.all.map options) := by
    rw [siteFields, List.map_map, List.mapM_map]
    exact Fields.mapM_eq_some fun site _ => option?_orNull (fun value _ => each value) present
  rw [Dialect.sites?, sitesToJson, ← entries_siteFields, looked]
  rw [Option.bind_eq_bind, Option.bind_some, values]
  refine congrArg some (funext fun site => ?_)
  rw [lookup_zip_map options (LawfulSpelled.complete site)]
  rfl

end Sites

section Sections

instance : LawfulSpelled Preset := ⟨fun value => by cases value <;> decide +kernel, by decide +kernel⟩

instance : LawfulSpelled IndentStyle := ⟨fun value => by cases value <;> decide +kernel, by decide +kernel⟩

instance : LawfulSpelled LineEnding := ⟨fun value => by cases value <;> decide +kernel, by decide +kernel⟩

instance : LawfulSpelled BraceStyle := ⟨fun value => by cases value <;> decide +kernel, by decide +kernel⟩

instance : LawfulSpelled Wrapping := ⟨fun value => by cases value <;> decide +kernel, by decide +kernel⟩

theorem reads_then {α β : Type} {first : Option α} {found : α} {next : α → Option β} {value : β}
    (read : first = some found) (rest : next found = some value) : (first >>= next) = some value := by
  rw [read]
  exact rest

def BlankLinesConfig.HasWords (config : BlankLinesConfig) : Prop :=
  (∀ lines ∈ config.betweenMembers, lines < UInt64.size) ∧ ∀ lines ∈ config.afterUsings, lines < UInt64.size

def FormatterConfig.HasWords (config : FormatterConfig) : Prop :=
  (∀ size ∈ config.indentSize, size < UInt64.size) ∧ ∀ lines ∈ config.blankLines, lines.HasWords

def Config.HasWords (config : Config) : Prop := ∀ formatter ∈ config.formatter, formatter.HasWords

theorem blankLines?_toJson {config : BlankLinesConfig} (words : config.HasWords) :
    Json.dialect.blankLines? config.toJson = some config := by
  have fields := @fields?_entries [("betweenMembers", some (orNull count config.betweenMembers)),
    ("afterUsings", some (orNull count config.afterUsings))] ["betweenMembers", "afterUsings"] rfl (by decide)
  exact reads_then fields <|
    reads_then (option?_orNull (fun lines given => count?_count (words.1 lines given)) fun _ => rfl) <|
    reads_then (option?_orNull (fun lines given => count?_count (words.2 lines given)) fun _ => rfl) rfl

theorem wrapping?_toJson (config : WrappingConfig) : Json.dialect.wrapping? config.toJson = some config := by
  have fields := @fields?_entries [("arrayInitializer", some (orNull spelled config.arrayInitializer))]
    ["arrayInitializer"] rfl (by decide)
  exact reads_then fields <| reads_then (option?_orNull (fun value _ => choice?_spelled value) fun _ => rfl)
    rfl

def FormatterConfig.fields (config : FormatterConfig) : Fields :=
  [("enabled", config.enabled.map .bool), ("preset", config.preset.map spelled),
    ("indentStyle", config.indentStyle.map spelled), ("indentSize", config.indentSize.map count),
    ("newLine", config.lineEnding.map spelled), ("indentSwitchBody", config.switchBody.map .bool),
    ("indentCaseBody", config.caseBody.map .bool), ("braces", config.braces.map (sitesToJson spelled)),
    ("spacing", config.spacing.map (sitesToJson .bool)),
    ("blankLines", config.blankLines.map BlankLinesConfig.toJson),
    ("wrapping", config.wrapping.map WrappingConfig.toJson)]

theorem FormatterConfig.toJson_eq (config : FormatterConfig) :
    config.toJson = .object config.fields.entries := by
  simp only [toJson, fields, Fields.entries, List.append_assoc, List.append_nil]

theorem formatter?_toJson {config : FormatterConfig} (words : config.HasWords) :
    Json.dialect.formatter? config.toJson = some config := by
  rw [FormatterConfig.toJson_eq]
  exact reads_then (fields?_entries rfl (by decide)) <|
    reads_then (option?_map (fun _ _ => rfl) fun _ => rfl) <|
    reads_then (option?_map (fun value _ => choice?_spelled value) fun _ => rfl) <|
    reads_then (option?_map (fun value _ => choice?_spelled value) fun _ => rfl) <|
    reads_then (option?_map (fun size given => count?_count (words.1 size given)) fun _ => rfl) <|
    reads_then (option?_map (fun value _ => choice?_spelled value) fun _ => rfl) <|
    reads_then (option?_map (fun _ _ => rfl) fun _ => rfl) <|
    reads_then (option?_map (fun _ _ => rfl) fun _ => rfl) <|
    reads_then (option?_map (fun _ _ => sites?_sitesToJson choice?_spelled fun _ => rfl) fun _ => rfl) <|
    reads_then (option?_map (fun _ _ => sites?_sitesToJson (fun _ => rfl) fun _ => rfl) fun _ => rfl) <|
    reads_then (option?_map (fun lines given => blankLines?_toJson (words.2 lines given)) fun _ => rfl) <|
    reads_then (option?_map (fun value _ => wrapping?_toJson value) fun _ => rfl) rfl

theorem texts?_array (texts : List String) :
    Json.dialect.texts? (.array (texts.map .string)) = some texts := by
  show (texts.map Json.string).mapM string? = some texts
  rw [List.mapM_map]
  have read := @Fields.mapM_eq_some _ _ texts (string? ∘ Json.string) id fun _ _ => rfl
  rwa [List.map_id] at read

def Config.fields (config : Config) : Fields :=
  [("$schema", config.schema.map .string), ("root", config.isRoot.map .bool),
    ("extends", config.parents.map fun parents => .array (parents.map .string)),
    ("formatter", config.formatter.map FormatterConfig.toJson)]

theorem Config.toJson_eq (config : Config) : config.toJson = .object config.fields.entries := by
  simp only [toJson, fields, Fields.entries, List.append_assoc, List.append_nil]

theorem config?_toJson {config : Config} (words : config.HasWords) :
    Config.ofJson? config.toJson = some config := by
  rw [Config.toJson_eq]
  exact reads_then (fields?_entries rfl (by decide)) <|
    reads_then (option?_map (fun _ _ => rfl) fun _ => rfl) <|
    reads_then (option?_map (fun _ _ => rfl) fun _ => rfl) <|
    reads_then (option?_map (fun texts _ => texts?_array texts) fun _ => rfl) <|
    reads_then (option?_map (fun value given => formatter?_toJson (words value given)) fun _ => rfl) rfl

end Sections

end Configurations

/-- What is written is read back, unless it holds a floating-point literal or is nested too deep: fragments
of every type, the items of placeholders, the records behind the tagged families, and configurations. -/
theorem read_of_written :
    (∀ (type : FragmentType) (value : type.Carrier), (type.node value).IsExact →
        (type.write value).depth ≤ documentLevels →
        type.read? ((type.write value).clip documentLevels) = some value) ∧
      (∀ item : PatternItem, item.IsExact → item.toJson.depth ≤ documentLevels →
        (Readers.upTo false item.toJson.depth).patternItem (item.toJson.clip documentLevels) = some item) ∧
      (∀ type : TypeRef, (Node.ofType type).IsExact →
        ReadsUntagged Readers.typeFields "kind" type.toJson type) ∧
      (∀ expression : Expression, (Node.ofExpression expression).IsExact →
        ReadsUntagged Readers.expressionFields "kind" expression.toJson expression) ∧
      (∀ clause : QueryClause, (Node.queryClause clause).IsExact →
        ReadsUntagged Readers.queryClauseFields "clause" clause.toJson clause) ∧
      (∀ statement : Statement, (Node.ofStatement statement).IsExact →
        ReadsUntagged Readers.statementFields "kind" statement.toJson statement) ∧
      (∀ config : Config, config.HasWords → config.toJson.depth ≤ documentLevels →
        Config.ofJson? (config.toJson.clip documentLevels) = some config) := by
  refine ⟨?_, ?_, ?_, ?_, ?_, ?_, ?_⟩
  · intro type value exact fits
    rw [clip_eq_self _ _ fits]
    exact ((faithful_upTo false _).fragment type value (Nat.le_refl _) exact).reads
  · intro item exact fits
    rw [clip_eq_self _ _ fits]
    exact ((faithful_upTo false _).patternItem item (Nat.le_refl _) exact).reads
  · exact fun type => readsUntagged_of_forms TypeRef.toJson_eq fun levels =>
      (faithful_upTo false levels).typeForms
  · exact fun expression =>
      readsUntagged_of_forms Expression.toJson_eq fun levels => (faithful_upTo false levels).expressionForms
  · exact fun clause =>
      readsUntagged_of_forms QueryClause.toJson_eq fun levels => (faithful_upTo false levels).queryClauseForms
  · exact fun statement =>
      readsUntagged_of_forms Statement.toJson_eq fun levels => (faithful_upTo false levels).statementForms
  · intro config words fits
    rw [clip_eq_self _ _ fits]
    exact config?_toJson words

def readyOrNull : Expression :=
  .conditional (.identifier ⟨"ready", false, none⟩ []) (.literal (.int 1) (some "0x1")) .nullReference

theorem readyOrNull_isExact : (Node.ofExpression readyOrNull).IsExact := by
  intro value held
  unfold readyOrNull at held
  cases held with
  | child member held =>
      rcases List.mem_cons.mp member with rfl | member
      · cases held with
        | child member held => cases member
      rcases List.mem_cons.mp member with rfl | member
      · cases held with
        | literal => rfl
        | child member held => cases member
      obtain rfl := List.mem_singleton.mp member
      cases held with
      | child member held => cases member

theorem readyOrNull_is_read_back :
    let config : Config := { formatter := some { indentSize := some 4, spacing := some fun _ => some true } }
    FragmentType.expression.read? (readyOrNull.toJson.clip documentLevels) = some readyOrNull ∧
      Config.ofJson? (config.toJson.clip documentLevels) = some config := by
  intro config
  refine ⟨read_of_written.1 .expression readyOrNull readyOrNull_isExact ?_,
    read_of_written.2.2.2.2.2.2 config ?_ ?_⟩
  · simp [readyOrNull, FragmentType.write, Expression.toJson, Identifier.toJson, Literal.toJson, tagged,
      integer, depth, depthOfEntries, documentLevels, entryOf, entryOfFlag, entryOfList]
  · rintro formatter ⟨⟩
    exact ⟨by rintro size ⟨⟩; decide, by rintro lines ⟨⟩⟩
  · decide +kernel

end CSharpLayout
