import SqlPrep.Proofs.Settings.Rebuilt

/-!
# Settings in effect

The value that is in effect for a setting: the normal form of what is given for it, if that is
valid, and its default otherwise. It is said of given entries as they are, without laying them over
anything, and it is what building settings leaves at the place of the setting.
-/

namespace SqlPrep.Settings

open Entries (named others)

/-- The value in effect for a setting. -/
def Setting.effective (s : Setting) (raw : Entries) : Value :=
  ((s.value? raw).bind s.normal?).getD s.value

/-- What becomes of a setting is the normal form of a valid value, and its default otherwise. -/
theorem outcome_value (s : Setting) (given : Option Value) :
    (s.outcome given).1 = (given.bind s.normal?).getD s.value := by
  cases given with
  | none => rfl
  | some v =>
    rw [Setting.outcome, Setting.normalized, Option.bind_some]
    cases s.normal? v <;> rfl

/-- Every setting is in a section. -/
theorem sectionName_mem : ∀ s ∈ checked, s.sectionName ∈ sectionNames := by
  apply forall_checked <;> decide

/-- Every setting is one of its section. -/
theorem mem_settingsIn {s : Setting} (hs : s ∈ checked) : s ∈ settingsIn s.sectionName :=
  List.mem_filter.mpr ⟨hs, beq_self_eq_true _⟩

/-- The outcome of a section holds the value in effect for each of its settings. -/
theorem get?_sectionOutcome {s : Setting} (hs : s ∈ checked) (raw : Entries) :
    Entries.get? (sectionOutcome s.sectionName (Entries.get? raw (.str s.sectionName))).1
      (.str s.key) = some (s.effective raw) := by
  have hname := sectionName_mem s hs
  have hmem := mem_settingsIn hs
  have hdefault : Entries.get? (named (defaultFields s.sectionName)) (.str s.key) = some s.value := by
    rw [← List.append_nil (named _)]
    exact get?_settings hname hmem Setting.value []
  rw [Setting.effective, Setting.value?]
  cases Entries.get? raw (.str s.sectionName) with
  | none => exact hdefault
  | some v =>
    cases v with
    | map entries =>
      rw [← outcome_value]
      exact get?_settings hname hmem (fun s => (s.outcome (Entries.get? entries (.str s.key))).1) _
    | _ => exact hdefault

/-- Building settings leaves the value in effect at the place of each setting. -/
theorem value?_build {raw : Entries} (h : Given raw) {s : Setting} (hs : s ∈ checked) :
    s.value? (build raw).config = some (s.effective raw) := by
  rw [build_eq_outcome h, Setting.value?, get?_outcome (sectionName_mem s hs)]
  exact get?_sectionOutcome hs raw

end SqlPrep.Settings
