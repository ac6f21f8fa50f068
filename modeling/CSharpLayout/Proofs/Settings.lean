import Mathlib.Tactic.ByContra
import CSharpLayout.Config.Basic

/-! The single options of a configuration. Merging keeps the first value that is set, and a policy takes an
option that is set before the field of its preset. -/

namespace CSharpLayout

inductive PolicyField where
  | indentStyle
  | indentSize
  | lineEnding
  | switchBody
  | caseBody
  | braces (site : BraceSite)
  | spacing (site : SpaceSite)
  | betweenMembers
  | afterUsings
  | arrayInitializer
  deriving DecidableEq, Repr

def PolicyField.Value : PolicyField → Type
  | .indentStyle => IndentStyle
  | .indentSize => Nat
  | .lineEnding => LineEnding
  | .switchBody => Bool
  | .caseBody => Bool
  | .braces _ => BraceStyle
  | .spacing _ => Bool
  | .betweenMembers => Nat
  | .afterUsings => Nat
  | .arrayInitializer => Wrapping

def Policy.value (policy : Policy) : (field : PolicyField) → field.Value
  | .indentStyle => policy.indentation.style
  | .indentSize => policy.indentation.size
  | .lineEnding => policy.lineEnding
  | .switchBody => policy.indentation.switchBody
  | .caseBody => policy.indentation.caseBody
  | .braces site => policy.braces site
  | .spacing site => policy.spacing site
  | .betweenMembers => policy.blankLines.betweenMembers
  | .afterUsings => policy.blankLines.afterUsings
  | .arrayInitializer => policy.arrayInitializer

/-- The single options of the formatter: whether it is enabled, its preset, and one option for each field of
a policy. -/
inductive Setting where
  | enabled
  | preset
  | field (field : PolicyField)
  deriving DecidableEq, Repr

def Setting.Value : Setting → Type
  | .enabled => Bool
  | .preset => Preset
  | .field option => option.Value

def FormatterConfig.setting (config : FormatterConfig) : (setting : Setting) → Option setting.Value
  | .enabled => config.enabled
  | .preset => config.preset
  | .field .indentStyle => config.indentStyle
  | .field .indentSize => config.indentSize
  | .field .lineEnding => config.lineEnding
  | .field .switchBody => config.switchBody
  | .field .caseBody => config.caseBody
  | .field (.braces site) => config.braces.bind fun styles => styles site
  | .field (.spacing site) => config.spacing.bind fun flags => flags site
  | .field .betweenMembers => config.blankLines.bind BlankLinesConfig.betweenMembers
  | .field .afterUsings => config.blankLines.bind BlankLinesConfig.afterUsings
  | .field .arrayInitializer => config.wrapping.bind WrappingConfig.arrayInitializer

def Config.setting (config : Config) (setting : Setting) : Option setting.Value :=
  config.formatter.bind fun formatter => formatter.setting setting

section Merging

theorem mergeSections_bind {α β : Type} {merge : α → α → α} {option : α → Option β}
    (first : ∀ child parent, option (merge child parent) = (option child).or (option parent))
    (child parent : Option α) :
    (mergeSections merge child parent).bind option = (child.bind option).or (parent.bind option) := by
  cases child with
  | none => simp [mergeSections]
  | some own =>
      cases parent with
      | none => simp [mergeSections]
      | some inherited => simp [mergeSections, first]

theorem FormatterConfig.setting_merge (child parent : FormatterConfig) (setting : Setting) :
    (child.merge parent).setting setting = (child.setting setting).or (parent.setting setting) := by
  cases setting with
  | enabled => exact Option.orElse_eq_or ..
  | preset => exact Option.orElse_eq_or ..
  | field field =>
      cases field
      case braces site => exact mergeSections_bind (fun _ _ => Option.orElse_eq_or ..) ..
      case spacing site => exact mergeSections_bind (fun _ _ => Option.orElse_eq_or ..) ..
      case betweenMembers => exact mergeSections_bind (fun _ _ => Option.orElse_eq_or ..) ..
      case afterUsings => exact mergeSections_bind (fun _ _ => Option.orElse_eq_or ..) ..
      case arrayInitializer => exact mergeSections_bind (fun _ _ => Option.orElse_eq_or ..) ..
      all_goals exact Option.orElse_eq_or ..

namespace Config

theorem setting_merge (child parent : Config) (setting : Setting) :
    (child.merge parent).setting setting = (child.setting setting).or (parent.setting setting) :=
  mergeSections_bind (fun own inherited => own.setting_merge inherited setting) ..

theorem setting_foldl (parents : List Config) (child : Config) (setting : Setting) :
    (parents.foldl merge child).setting setting = (child :: parents).findSome? fun config =>
      config.setting setting := by
  induction parents generalizing child with
  | nil => simp
  | cons parent rest ih =>
      rw [List.foldl_cons, ih, List.findSome?_cons, List.findSome?_cons, List.findSome?_cons, setting_merge]
      cases child.setting setting with
      | none => simp
      | some value => simp

/-- What belongs to one file is the same in both configurations. -/
structure SameFile (left right : Config) : Prop where
  schema : left.schema = right.schema
  isRoot : left.isRoot = right.isRoot
  parents : left.parents = right.parents

theorem sameFile_foldl (parents : List Config) (child : Config) :
    SameFile (parents.foldl merge child) child := by
  induction parents generalizing child with
  | nil => exact ⟨rfl, rfl, rfl⟩
  | cons parent rest ih =>
      have later := ih (child.merge parent)
      exact ⟨later.schema, later.isRoot, later.parents⟩

end Config

end Merging

section Resolving

theorem FormatterConfig.value_apply (config : FormatterConfig) (field : PolicyField) :
    config.apply.value field =
      (config.setting (.field field)).getD
        ((Policy.ofPreset ((config.setting .preset).getD .allman)).value field) := by
  cases field <;> rfl

theorem FormatterConfig.isValidIndent_eq_false {size : Nat} :
    isValidIndent size = false ↔ size = 0 ∨ 16 < size := by
  unfold isValidIndent largestIndent
  rw [← Bool.not_eq_true, Bool.and_eq_true, decide_eq_true_eq, decide_eq_true_eq]
  omega

def Config.HasBadIndent (config : Config) : Prop :=
  ∃ size : Nat, config.setting (.field .indentSize) = some size ∧ (size = 0 ∨ 16 < size)

namespace Config

variable {config : Config} {formatter : FormatterConfig}

theorem setting_of_present (present : config.formatter = some formatter) (setting : Setting) :
    config.setting setting = formatter.setting setting := by
  simp [Config.setting, present]

theorem policy_of_missing (missing : config.formatter = none) : config.policy = .ok .standard := by
  simp [policy, missing]

theorem policy_of_disabled (disabled : config.setting .enabled = some false) :
    config.policy = .ok .standard := by
  unfold policy
  cases present : config.formatter with
  | none => rfl
  | some formatter =>
      have off : formatter.enabled = some false := (setting_of_present present .enabled).symm.trans disabled
      simp [off]

theorem policy_of_enabled (present : config.formatter = some formatter)
    (enabled : config.setting .enabled ≠ some false) :
    config.policy = formatter.policy := by
  have on : formatter.enabled ≠ some false :=
    fun off => enabled ((setting_of_present present .enabled).trans off)
  simp [policy, present, on]

theorem policy_of_bad (present : config.formatter = some formatter)
    (enabled : config.setting .enabled ≠ some false) (bad : config.HasBadIndent) :
    ∃ message, config.policy = .error (.configuration message) := by
  obtain ⟨size, set, range⟩ := bad
  have given : formatter.indentSize = some size :=
    (setting_of_present present (.field .indentSize)).symm.trans set
  have refused := FormatterConfig.isValidIndent_eq_false.mpr range
  rw [policy_of_enabled present enabled, FormatterConfig.policy, given]
  simp [refused]

theorem policy_of_good (present : config.formatter = some formatter)
    (enabled : config.setting .enabled ≠ some false) (good : ¬config.HasBadIndent) :
    config.policy = .ok formatter.apply := by
  rw [policy_of_enabled present enabled, FormatterConfig.policy]
  cases given : formatter.indentSize with
  | none => rfl
  | some size =>
      have accepted : FormatterConfig.isValidIndent size = true := by
        by_contra refused
        have range := FormatterConfig.isValidIndent_eq_false.mp (Bool.eq_false_iff.mpr refused)
        exact good ⟨size, (setting_of_present present (.field .indentSize)).trans given, range⟩
      simp [accepted]

end Config

end Resolving

/-- A configuration that is merged with its parents in order keeps what belongs to its own file, and every
option has the first value that is set. The policy is the standard one without a formatter or with a
disabled one; otherwise an indentation out of range is an error, and without one every field has its option
or comes from the preset. -/
theorem merged_options_decide (child : Config) (parents : List Config) :
    let merged := parents.foldl Config.merge child
    merged.SameFile child ∧
      (∀ setting, merged.setting setting = (child :: parents).findSome? fun config =>
        config.setting setting) ∧
      (merged.formatter = none ∨ merged.setting .enabled = some false → merged.policy = .ok .standard) ∧
      (merged.formatter ≠ none → merged.setting .enabled ≠ some false →
        ((∃ message, merged.policy = .error (.configuration message)) ↔ merged.HasBadIndent) ∧
        (¬merged.HasBadIndent → ∃ policy, merged.policy = .ok policy ∧ ∀ field, policy.value field =
          (merged.setting (.field field)).getD
            ((Policy.ofPreset ((merged.setting .preset).getD .allman)).value field))) := by
  intro merged
  refine ⟨Config.sameFile_foldl parents child, Config.setting_foldl parents child, ?_, ?_⟩
  · rintro (missing | disabled)
    · exact Config.policy_of_missing missing
    · exact Config.policy_of_disabled disabled
  · intro present enabled
    obtain ⟨formatter, present⟩ := Option.ne_none_iff_exists'.mp present
    refine ⟨⟨?_, Config.policy_of_bad present enabled⟩, fun good => ?_⟩
    · rintro ⟨message, failed⟩
      by_contra good
      rw [Config.policy_of_good present enabled good] at failed
      cases failed
    · refine ⟨formatter.apply, Config.policy_of_good present enabled good, fun field => ?_⟩
      rw [Config.setting_of_present present, Config.setting_of_present present]
      exact formatter.value_apply field

end CSharpLayout
