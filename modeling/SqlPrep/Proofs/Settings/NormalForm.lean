import SqlPrep.Settings.Choices
import SqlPrep.Settings.Validation

/-!
# Normal forms of settings

What each setting may be given as, and the form in which it is kept, said without the functions that
decide it. A default is in normal form, and so is every value that was put into it. The strategy and
the source are two settings of one kind: each names one of several choices, and what holds of them
is said of this kind.
-/

namespace SqlPrep

/-- The strategy that a value of its setting is or names, if it is valid. -/
def Strategy.asked? : Value → Option Strategy
  | .str s => ofText? s
  | .choice (.strategy strategy) => .some strategy
  | _ => .none

/-- The source that a value of its setting is or names, if it is valid. -/
def Source.asked? : Value → Option Source
  | .str s => ofText? s
  | .choice (.source source) => .some source
  | _ => .none

namespace Settings

/-- The setting that names the strategy. -/
def strategySetting : Setting :=
  ⟨sqlSection, defaultSql, strategyKey, .str Strategy.all.keyword, normalStrategy?⟩

/-- The setting that names the source. -/
def sourceSetting : Setting :=
  ⟨sqlSection, defaultSql, sourceKey, .str Source.all.keyword, normalSource?⟩

/-! ## What settings are given as -/

/-- Any text can be the path, and is kept as it is given. -/
def KeptPath (v w : Value) : Prop :=
  (∃ s, v.text? = some s) ∧ w = v

/-- The strategy is given by itself or by a text, in any case and with blank characters around it,
and kept as its keyword. -/
def KeptStrategy (v w : Value) : Prop :=
  ∃ strategy : Strategy,
    (v = .choice (.strategy strategy) ∨ ∃ s, v = .str s ∧ keywordForm s = strategy.keyword) ∧
      w = .str strategy.keyword

/-- The source is given and kept as the strategy is. -/
def KeptSource (v w : Value) : Prop :=
  ∃ source : Source,
    (v = .choice (.source source) ∨ ∃ s, v = .str s ∧ keywordForm s = source.keyword) ∧
      w = .str source.keyword

/-- The level is given in any case, and kept in upper case. -/
def KeptLevel (v w : Value) : Prop :=
  ∃ s, v.text? = some s ∧ String.ofList (Text.upper s.toList) ∈ levelNames ∧
    w = .str (String.ofList (Text.upper s.toList))

/-- The path is kept as any text that it is given as. -/
theorem normalPath?_eq_some {v w : Value} : normalPath? v = some w ↔ KeptPath v w := by
  cases h : v.text? <;> simp [normalPath?, KeptPath, h, eq_comm]

/-- The level is kept as the name in upper case of one of the levels. -/
theorem normalLevel?_eq_some {v w : Value} : normalLevel? v = some w ↔ KeptLevel v w := by
  cases h : v.text? with
  | none => simp [normalLevel?, KeptLevel, h]
  | some s =>
    by_cases hlevel : String.ofList (Text.upper s.toList) ∈ levelNames <;>
      simp [normalLevel?, KeptLevel, h, hlevel, @eq_comm _ w]

/-! ## Settings that name a choice -/

/-- A setting of the section `sql` that names one of several choices, which are told apart by their
keywords. A value asks for a choice by being it or by a text that names it, and it is kept and read
again as the keyword. -/
structure ChoiceSetting (α : Type) where
  setting : Setting
  values : List α
  keyword : α → String
  member : α → Value
  asked? : Value → Option α
  ofValue : Value → Except ChoiceError α
  default : α
  setting_mem : setting ∈ checked
  sectionName_eq : setting.sectionName = sqlSection
  value_eq : setting.value = .str (keyword default)
  normal?_eq : ∀ v, setting.normal? v = (asked? v).map fun a => .str (keyword a)
  mem_values : ∀ a, a ∈ values
  keyword_injective : Function.Injective keyword
  keywordForm_keyword : ∀ a, keywordForm (keyword a) = keyword a
  asked?_str : ∀ s, asked? (.str s) = values.find? fun v => keyword v == keywordForm s
  asked?_member : ∀ a, asked? (member a) = some a
  asked?_other : ∀ v, (∀ s, v ≠ .str s) → (∀ a, v ≠ member a) → asked? v = none
  ofValue_of_asked : ∀ s a, asked? (.str s) = some a → ofValue (.str s) = .ok a

/-- The strategy as a setting that names a choice. -/
def strategyChoice : ChoiceSetting Strategy where
  setting := strategySetting
  values := Strategy.values
  keyword := Strategy.keyword
  member a := .choice (.strategy a)
  asked? := Strategy.asked?
  ofValue := Strategy.ofValue
  default := .all
  setting_mem := by simp [checked, strategySetting]
  sectionName_eq := rfl
  value_eq := rfl
  normal?_eq v := by
    change normalStrategy? v = (Strategy.asked? v).map fun a => .str a.keyword
    cases v with
    | choice c => cases c <;> rfl
    | _ => rfl
  mem_values a := by cases a <;> decide
  keyword_injective a b h := by cases a <;> cases b <;> first | rfl | exact absurd h (by decide)
  keywordForm_keyword a := by cases a <;> decide +kernel
  asked?_str _ := rfl
  asked?_member _ := rfl
  asked?_other v hstr hmember := by
    unfold Strategy.asked?
    split
    · next s => exact absurd rfl (hstr s)
    · next a => exact absurd rfl (hmember a)
    · rfl
  ofValue_of_asked s a h := by
    have hs : Strategy.ofText? s = some a := h
    simp only [Strategy.ofValue, Value.plain, hs]

/-- The source as a setting that names a choice. -/
def sourceChoice : ChoiceSetting Source where
  setting := sourceSetting
  values := Source.values
  keyword := Source.keyword
  member a := .choice (.source a)
  asked? := Source.asked?
  ofValue := Source.ofValue
  default := .all
  setting_mem := by simp [checked, sourceSetting]
  sectionName_eq := rfl
  value_eq := rfl
  normal?_eq v := by
    change normalSource? v = (Source.asked? v).map fun a => .str a.keyword
    cases v with
    | choice c => cases c <;> rfl
    | _ => rfl
  mem_values a := by cases a <;> decide
  keyword_injective a b h := by cases a <;> cases b <;> first | rfl | exact absurd h (by decide)
  keywordForm_keyword a := by cases a <;> decide +kernel
  asked?_str _ := rfl
  asked?_member _ := rfl
  asked?_other v hstr hmember := by
    unfold Source.asked?
    split
    · next s => exact absurd rfl (hstr s)
    · next a => exact absurd rfl (hmember a)
    · rfl
  ofValue_of_asked s a h := by
    have hs : Source.ofText? s = some a := h
    simp only [Source.ofValue, Value.plain, hs]

namespace ChoiceSetting

variable {α : Type} {v w : Value} {a : α}

/-- Among the choices a keyword finds its own. -/
theorem find?_keyword (c : ChoiceSetting α) {k : String} :
    (c.values.find? fun v => c.keyword v == k) = some a ↔ k = c.keyword a := by
  constructor
  · intro h
    exact (beq_iff_eq.mp (List.find?_some (p := fun v => c.keyword v == k) h)).symm
  · rintro rfl
    obtain ⟨b, hb⟩ : ∃ b, (c.values.find? fun v => c.keyword v == c.keyword a) = some b := by
      rw [← Option.isSome_iff_exists, List.find?_isSome]
      exact ⟨a, c.mem_values a, beq_self_eq_true _⟩
    have hsame := List.find?_some (p := fun v => c.keyword v == c.keyword a) hb
    rw [hb, c.keyword_injective (beq_iff_eq.mp hsame)]

/-- A value asks for a choice by being it, or by a text in any case and with blank characters around
it. -/
theorem asked?_eq_some (c : ChoiceSetting α) :
    c.asked? v = some a ↔ v = c.member a ∨ ∃ s, v = .str s ∧ keywordForm s = c.keyword a := by
  constructor
  · intro h
    by_cases hstr : ∃ s, v = .str s
    · obtain ⟨s, rfl⟩ := hstr
      rw [c.asked?_str, c.find?_keyword] at h
      exact .inr ⟨s, rfl, h⟩
    · by_cases hmember : ∃ b, v = c.member b
      · obtain ⟨b, rfl⟩ := hmember
        rw [c.asked?_member] at h
        exact .inl (congrArg c.member (Option.some.inj h))
      · rw [c.asked?_other v (not_exists.mp hstr) (not_exists.mp hmember)] at h
        cases h
  · rintro (rfl | ⟨s, rfl, hs⟩)
    · exact c.asked?_member a
    · rw [c.asked?_str, c.find?_keyword, hs]

/-- The setting is kept as the keyword of the choice that is asked for. -/
theorem normal?_eq_some (c : ChoiceSetting α) :
    c.setting.normal? v = some w ↔ ∃ a,
      (v = c.member a ∨ ∃ s, v = .str s ∧ keywordForm s = c.keyword a) ∧ w = .str (c.keyword a) := by
  simp only [c.normal?_eq, Option.map_eq_some_iff, c.asked?_eq_some, @eq_comm _ w]

/-- A keyword is in normal form. -/
theorem normal?_keyword (c : ChoiceSetting α) (a : α) :
    c.setting.normal? (.str (c.keyword a)) = some (.str (c.keyword a)) :=
  c.normal?_eq_some.mpr ⟨a, .inr ⟨_, rfl, c.keywordForm_keyword a⟩, rfl⟩

/-- A keyword is read as its choice. -/
theorem ofValue_keyword (c : ChoiceSetting α) (a : α) : c.ofValue (.str (c.keyword a)) = .ok a :=
  c.ofValue_of_asked _ a (c.asked?_eq_some.mpr (.inr ⟨_, rfl, c.keywordForm_keyword a⟩))

/-- A value in normal form stays as it is. -/
theorem normal?_of_normal (c : ChoiceSetting α) (h : c.setting.normal? v = some w) :
    c.setting.normal? w = some w := by
  obtain ⟨a, -, rfl⟩ := c.normal?_eq_some.mp h
  exact c.normal?_keyword a

end ChoiceSetting

/-! ## All settings -/

/-- The name of a level is in upper case. -/
theorem upper_of_mem_levelNames :
    ∀ name ∈ levelNames, String.ofList (Text.upper name.toList) = name := by
  decide +kernel

/-- The name of a level is in normal form. -/
theorem normalLevel?_of_mem {name : String} (h : name ∈ levelNames) :
    normalLevel? (.str name) = some (.str name) := by
  have hupper := upper_of_mem_levelNames name h
  exact normalLevel?_eq_some.mpr ⟨name, rfl, by rwa [hupper], by rw [hupper]⟩

/-- What holds of each setting holds of all that are checked. -/
theorem forall_checked {P : Setting → Prop}
    (hpath : P ⟨sqlSection, defaultSql, pathKey, .str "/app/sql_queries", normalPath?⟩)
    (hstrategy : P ⟨sqlSection, defaultSql, strategyKey, .str Strategy.all.keyword, normalStrategy?⟩)
    (hsource : P ⟨sqlSection, defaultSql, sourceKey, .str Source.all.keyword, normalSource?⟩)
    (hlevel : P ⟨loggingSection, defaultLogging, levelKey, .str "WARNING", normalLevel?⟩) :
    ∀ s ∈ checked, P s := by
  rw [checked]
  exact List.forall_mem_cons.mpr ⟨hpath, List.forall_mem_cons.mpr ⟨hstrategy,
    List.forall_mem_cons.mpr ⟨hsource, List.forall_mem_cons.mpr ⟨hlevel, fun _ h => nomatch h⟩⟩⟩⟩

/-- A default is in normal form. -/
theorem normal?_value : ∀ s ∈ checked, s.normal? s.value = some s.value :=
  forall_checked rfl (strategyChoice.normal?_keyword .all) (sourceChoice.normal?_keyword .all)
    (normalLevel?_of_mem (by decide))

/-- A value in normal form stays as it is. -/
theorem normal?_normal :
    ∀ s ∈ checked, ∀ v w, s.normal? v = some w → s.normal? w = some w := by
  apply forall_checked
  · intro v w (h : normalPath? v = some w)
    obtain ⟨-, rfl⟩ := normalPath?_eq_some.mp h
    exact h
  · exact fun _ _ => strategyChoice.normal?_of_normal
  · exact fun _ _ => sourceChoice.normal?_of_normal
  · intro v w (h : normalLevel? v = some w)
    change normalLevel? w = some w
    obtain ⟨level, -, hlevel, hw⟩ := normalLevel?_eq_some.mp h
    rw [hw, normalLevel?_of_mem hlevel]

end Settings
end SqlPrep
