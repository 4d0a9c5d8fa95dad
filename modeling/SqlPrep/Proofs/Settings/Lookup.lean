import SqlPrep.Settings.Validation

/-!
# Looking up settings

An assignment under a text changes what is found under that text and under no other. So putting
settings into their normal form, one after the other, leaves each at the value that its own turn
gave it.
-/

namespace SqlPrep

/-- A key is the same as a text if it counts as that text. -/
theorem sameKey_str {key : Value} {s : String} :
    key.sameKey (.str s) = true ↔ key.text? = some s := by
  cases key <;> simp [Value.sameKey, Value.text?, Value.toInt?]

namespace Entries

/-- A text is found under the value last assigned to it. -/
theorem get?_put_self (entries : Entries) (s : String) (v : Value) :
    get? (put entries (.str s) v) (.str s) = some v := by
  induction entries with
  | nil => rw [put, get?, if_pos (sameKey_str.mpr rfl)]
  | cons entry rest ih =>
    obtain ⟨key, old⟩ := entry
    by_cases hkey : key.sameKey (.str s) = true
    · rw [put, if_pos hkey, get?, if_pos hkey]
    · rw [put, if_neg hkey, get?, if_neg hkey, ih]

/-- An assignment to a text does not change what is found under another. -/
theorem get?_put_of_ne {s t : String} (h : s ≠ t) (entries : Entries) (v : Value) :
    get? (put entries (.str s) v) (.str t) = get? entries (.str t) := by
  have hother {key : Value} (hkey : key.sameKey (.str s) = true) : ¬ key.sameKey (.str t) = true := by
    rw [sameKey_str] at hkey ⊢
    rw [hkey, Option.some.injEq]
    exact h
  induction entries with
  | nil => exact if_neg (hother (sameKey_str.mpr rfl))
  | cons entry rest ih =>
    obtain ⟨key, old⟩ := entry
    by_cases hkey : key.sameKey (.str s) = true
    · rw [put, if_pos hkey, get?, get?, if_neg (hother hkey), if_neg (hother hkey)]
    · rw [put, if_neg hkey, get?, get?, ih]

end Entries

namespace Settings

/-- A mapping gives its own entries as settings. -/
theorem entriesOf_map (entries : Entries) : entriesOf (.map entries) = .ok entries := by
  cases entries <;> rfl

/-- The value of a setting, if its section is a mapping that holds one. -/
def Setting.value? (s : Setting) (config : Entries) : Option Value :=
  match Entries.get? config (.str s.sectionName) with
  | some (.map entries) => Entries.get? entries (.str s.key)
  | _ => none

/-- Two settings with different places. -/
def Setting.Apart (s t : Setting) : Prop :=
  s.sectionName ≠ t.sectionName ∨ s.key ≠ t.key

/-- The section of a setting with its value in normal form. -/
def Setting.ensuredSection (s : Setting) (config : Entries) : Entries :=
  Entries.put (s.sectionIn config).1 (.str s.key) (s.valueIn (s.sectionIn config).1).1

/-- Putting a setting into its normal form assigns its section. -/
theorem ensure_config (s : Setting) (c : Checked) :
    (s.ensure c).config = Entries.put c.config (.str s.sectionName) (.map (s.ensuredSection c.config)) :=
  rfl

/-- A setting that has been put into its normal form has that form. -/
theorem value?_ensure_self (s : Setting) (c : Checked) :
    s.value? (s.ensure c).config = some (s.valueIn (s.sectionIn c.config).1).1 := by
  rw [Setting.value?, ensure_config, Entries.get?_put_self]
  exact Entries.get?_put_self _ _ _

/-- Putting one setting into its normal form leaves the value of another. -/
theorem value?_ensure_of_apart {s t : Setting} (h : s.Apart t) {c : Checked} {v : Value}
    (hv : t.value? c.config = some v) : t.value? (s.ensure c).config = some v := by
  by_cases hsection : s.sectionName = t.sectionName
  · have hkey : s.key ≠ t.key := h.resolve_left fun hne => hne hsection
    rw [Setting.value?, ensure_config, hsection, Entries.get?_put_self]
    unfold Setting.value? at hv
    split at hv
    · next entries hentries =>
      rw [← hsection] at hentries
      have hsame : (s.sectionIn c.config).1 = entries := by rw [Setting.sectionIn, hentries]
      rwa [Setting.ensuredSection, hsame, Entries.get?_put_of_ne hkey]
    · cases hv
  · rwa [Setting.value?, ensure_config, Entries.get?_put_of_ne hsection]

/-- Later settings with other places leave the value of a setting. -/
theorem value?_foldl_of_apart {settings : List Setting} {t : Setting}
    (h : ∀ s ∈ settings, s.Apart t) {c : Checked} {v : Value} (hv : t.value? c.config = some v) :
    t.value? (settings.foldl (fun c s => s.ensure c) c).config = some v := by
  induction settings generalizing c with
  | nil => exact hv
  | cons s settings ih =>
    obtain ⟨hhead, htail⟩ := List.forall_mem_cons.mp h
    exact ih htail (value?_ensure_of_apart hhead hv)

/-- After all settings with places of their own have been put into their normal form, each has
one. -/
theorem value?_foldl {settings : List Setting}
    (hapart : settings.Pairwise fun s t => t.Apart s) {t : Setting} (ht : t ∈ settings)
    (c : Checked) :
    ∃ entries, t.value? (settings.foldl (fun c s => s.ensure c) c).config =
      some (t.valueIn entries).1 := by
  induction settings generalizing c with
  | nil => cases ht
  | cons s settings ih =>
    obtain ⟨hhead, htail⟩ := List.pairwise_cons.mp hapart
    rcases List.mem_cons.mp ht with rfl | hmem
    · exact ⟨_, value?_foldl_of_apart hhead (value?_ensure_self t c)⟩
    · exact ih htail hmem (s.ensure c)

/-- The settings have places of their own. -/
theorem checked_apart : checked.Pairwise fun s t => t.Apart s := by
  simp [checked, Setting.Apart, sqlSection, loggingSection, pathKey, strategyKey, sourceKey, levelKey]

end Settings
end SqlPrep
