import SqlPrep.Proofs.Prepare.Form
import SqlPrep.Proofs.Settings.Effective

/-!
# Preparing as a composition

Of all that can be given as settings, a form of a query depends on two values: the strategy and the
source that are in effect. Both are read off the given mapping itself, where a value that is missing
or not valid counts as the default. The form is the comment removal that they ask for, followed by
folding if the form is for logs. Since building reaches a fixed point at once, settings that were
built before lead to the same form as the settings that they were built from.
-/

namespace SqlPrep

namespace Settings

/-- The strategy in effect: the one that is asked for, if any, and otherwise the default. -/
def effectiveStrategy (raw : Entries) : Strategy :=
  ((strategySetting.value? raw).bind Strategy.asked?).getD .all

/-- The source in effect: the one that is asked for, if any, and otherwise the default. -/
def effectiveSource (raw : Entries) : Source :=
  ((sourceSetting.value? raw).bind Source.asked?).getD .all

namespace ChoiceSetting

variable {α : Type}

/-- The choice in effect: the one that is asked for, if any, and otherwise the default. -/
def inEffect (c : ChoiceSetting α) (raw : Entries) : α :=
  ((c.setting.value? raw).bind c.asked?).getD c.default

/-- The value in effect for a setting that names a choice is the keyword of the choice in effect. -/
theorem effective_setting (c : ChoiceSetting α) (raw : Entries) :
    c.setting.effective raw = .str (c.keyword (c.inEffect raw)) := by
  rw [Setting.effective, inEffect, c.value_eq]
  cases c.setting.value? raw with
  | none => rfl
  | some v =>
    rw [Option.bind_some, Option.bind_some, c.normal?_eq]
    cases c.asked? v <;> rfl

/-- Settings that are built name the choice in effect. -/
theorem chosen_build (c : ChoiceSetting α) {raw : Entries} (h : Given raw) :
    c.chosen (.map (build raw).config) = .ok (c.inEffect raw) := by
  have hvalue := value?_build h c.setting_mem
  rw [c.effective_setting] at hvalue
  exact c.chosen_of_sqlValue (sqlValue_of_value? c.sectionName_eq hvalue)

end ChoiceSetting

/-- Settings that are built name the strategy in effect. -/
theorem strategy_build_eq {raw : Entries} (h : Given raw) :
    strategy (.map (build raw).config) = .ok (effectiveStrategy raw) :=
  strategyChoice.chosen_build h

/-- Settings that are built name the source in effect. -/
theorem source_build_eq {raw : Entries} (h : Given raw) :
    source (.map (build raw).config) = .ok (effectiveSource raw) :=
  sourceChoice.chosen_build h

end Settings

namespace Prepare

open Settings

/-- What can be given as settings, with the entries that it gives: nothing, or a mapping. -/
inductive Request : Value → Entries → Prop
  | nothing : Request .null []
  | mapping {raw : Entries} (h : Given raw) : Request (.map raw) raw

variable {raw : Value} {entries : Entries}

/-- The entries of a request are those of a mapping. -/
theorem Request.given (h : Request raw entries) : Given entries := by
  cases h with
  | nothing => exact ⟨List.Pairwise.nil, fun _ he => nomatch he⟩
  | mapping h => exact h

/-- A request gives its entries as settings. -/
theorem Request.entriesOf_eq (h : Request raw entries) : entriesOf raw = .ok entries := by
  cases h with
  | nothing => rfl
  | mapping h => exact entriesOf_map _

/-- A request is prepared as the mapping of its entries. -/
theorem Request.prepare_eq (h : Request raw entries) (forLogs : Bool) (sql : String) :
    prepare raw forLogs sql = prepare (.map entries) forLogs sql := by
  cases h with
  | nothing => exact prepare_null forLogs sql
  | mapping h => rfl

/-- A request leads to the form that the strategy and the source in effect ask for. -/
theorem prepare_effective (h : Request raw entries) (forLogs : Bool) (sql : String) :
    prepare raw forLogs sql =
      .ok (form (effectiveStrategy entries) (effectiveSource entries) forLogs sql) := by
  rw [h.prepare_eq, prepare_map_eq (strategy_build_eq h.given) (source_build_eq h.given)]

/-- Settings that were built are prepared as those that they were built from. -/
theorem prepare_build (h : Given entries) (forLogs : Bool) (sql : String) :
    prepare (.map (build entries).config) forLogs sql = prepare (.map entries) forLogs sql := by
  rw [prepare_map, prepare_map, build_build h]

/-- A source covers a form of a query if it is the one of all forms, or the one of the form for logs
and the form is for logs. -/
theorem applies_eq_true {source : Source} {forLogs : Bool} :
    source.applies forLogs = true ↔ source = .all ∨ source = .preparedForLogs ∧ forLogs = true := by
  cases source <;> simp [Source.applies]

/-- The two forms of a query are the same but for folding, unless comments are removed from the form
for logs alone. -/
theorem formText_cases (strategy : Strategy) (source : Source) (sql : String) :
    formText strategy source true sql = Spacing.normalize (formText strategy source false sql) ∨
      source = .preparedForLogs ∧ formText strategy source false sql = sql := by
  cases source with
  | none => exact Or.inl rfl
  | all => exact Or.inl rfl
  | preparedForLogs => exact Or.inr ⟨rfl, rfl⟩

/-- Preparing is the composition of comment removal and folding. Whatever mapping is given as
settings, or nothing, preparing does not fail: comments are removed with the strategy in effect if
the source in effect is the one of all forms, or the one of the form for logs and the form is for
logs; then blank runs are folded if the form is for logs. So requests with the same strategy and
source in effect lead to the same form, and so do settings that were built before. Of the two forms
of a query, the one for logs is the other one with its blank runs folded, unless the source in
effect is the one of the form for logs, when the other form is the query itself. -/
theorem prepare_composed (h : Request raw entries) (sql : String) :
    (∀ forLogs, (prepare raw forLogs sql).map Reported.text = .ok (
      let removed :=
        if effectiveSource entries = .all ∨
            effectiveSource entries = .preparedForLogs ∧ forLogs = true then
          Comment.removeComments (effectiveStrategy entries) sql
        else sql
      if forLogs = true then Spacing.normalize removed else removed)) ∧
    (∀ other entries', Request other entries' →
      effectiveStrategy entries' = effectiveStrategy entries →
      effectiveSource entries' = effectiveSource entries →
      ∀ forLogs, prepare other forLogs sql = prepare raw forLogs sql) ∧
    (∃ built, (entriesOf raw).map build = .ok built ∧
      ∀ forLogs, prepare (.map built.config) forLogs sql = prepare raw forLogs sql) ∧
    ∃ variants, prepareVariants raw sql = .ok variants ∧
      (variants.forLogs.text = Spacing.normalize variants.sql.text ∨
        effectiveSource entries = .preparedForLogs ∧ variants.sql.text = sql) := by
  refine ⟨fun forLogs => ?_, ?_, ⟨build entries, ?_, fun forLogs => ?_⟩, ?_⟩
  · rw [prepare_effective h]
    simp only [Except.map, form, formText, removal, applies_eq_true]
  · intro other entries' hother hstrategy hsource forLogs
    rw [prepare_effective h, prepare_effective hother, hstrategy, hsource]
  · rw [h.entriesOf_eq, Except.map]
  · rw [h.prepare_eq, prepare_build h.given]
  · refine ⟨⟨form (effectiveStrategy entries) (effectiveSource entries) false sql,
      form (effectiveStrategy entries) (effectiveSource entries) true sql⟩, ?_, ?_⟩
    · rw [prepareVariants, prepare_effective h, prepare_effective h]
      rfl
    · exact formText_cases _ _ sql

/-- Comments are removed from the form for logs alone, by a source in mixed case next to a strategy
that is not valid and a section that is no mapping; a request that names the default strategy leads
to the same form. -/
theorem prepare_composed_for_logs :
    ∃ raw other : Entries,
      raw = [(.str "logging", .int 5), (.str "sql", .map [(.str "remove_comments", .list []),
        (.str "remove_comments_from", .str " Prepared_For_Logs\n")])] ∧
      other = [(.str "sql", .map [(.str "remove_comments_from", .choice (.source .preparedForLogs)),
        (.str "remove_comments", .str "ALL")])] ∧
      Request (.map raw) raw ∧ Request (.map other) other ∧
      (prepare (.map raw) true "a -- b\n/* c */ d").map Reported.text = .ok "a d" ∧
      (prepare (.map raw) false "a -- b\n/* c */ d").map Reported.text = .ok "a -- b\n/* c */ d" ∧
      prepare (.map other) true "a -- b\n/* c */ d" = prepare (.map raw) true "a -- b\n/* c */ d" := by
  obtain ⟨raw, hraw⟩ : ∃ raw : Entries, raw = [(.str "logging", .int 5), (.str "sql",
      .map [(.str "remove_comments", .list []),
        (.str "remove_comments_from", .str " Prepared_For_Logs\n")])] := ⟨_, rfl⟩
  obtain ⟨other, hother⟩ : ∃ other : Entries, other = [(.str "sql",
      .map [(.str "remove_comments_from", .choice (.source .preparedForLogs)),
        (.str "remove_comments", .str "ALL")])] := ⟨_, rfl⟩
  have hrawGiven : Given raw := by
    subst hraw
    refine ⟨by decide, fun e he entries hentries => ?_⟩
    simp only [List.mem_cons, List.not_mem_nil, or_false] at he
    rcases he with rfl | rfl
    · cases hentries
    · cases hentries
      decide
  have hotherGiven : Given other := by
    subst hother
    refine ⟨by decide, fun e he entries hentries => ?_⟩
    obtain rfl := List.mem_singleton.mp he
    cases hentries
    decide
  have hstrategy : effectiveStrategy other = effectiveStrategy raw := by
    subst hraw hother
    decide +kernel
  have hsource : effectiveSource other = effectiveSource raw := by
    subst hraw hother
    decide +kernel
  obtain ⟨htext, hsame, -⟩ := prepare_composed (.mapping hrawGiven) "a -- b\n/* c */ d"
  refine ⟨raw, other, hraw, hother, .mapping hrawGiven, .mapping hotherGiven,
    (htext true).trans (congrArg Except.ok ?_), (htext false).trans (congrArg Except.ok ?_),
    hsame _ _ (.mapping hotherGiven) hstrategy hsource true⟩
  · subst hraw
    decide +kernel
  · subst hraw
    decide +kernel

end Prepare
end SqlPrep
