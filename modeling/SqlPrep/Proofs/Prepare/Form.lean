import SqlPrep.Prepare
import SqlPrep.Proofs.Comment.Segmentation
import SqlPrep.Proofs.Settings.Lookup
import SqlPrep.Proofs.Settings.NormalForm

/-!
# The two forms of a query

Whatever settings are given, the validated settings name a strategy and a source. They alone decide
what a form of a query is: comments are removed with the strategy if the source covers the form, and
blank runs are folded in the form for logs. No settings make the preparation fail.
-/

namespace SqlPrep

namespace Settings

/-- The member of a mapping under a text is what is found under it. -/
theorem member_of_get? {entries : Entries} {key : String} {v : Value}
    (h : Entries.get? entries (.str key) = some v) : Value.member (.map entries) (.str key) = .ok v := by
  simp [Value.member, Value.isHashable, h]

/-- A setting of the section `sql` that holds a value is read as that value. -/
theorem sqlValue_of_value? {s : Setting} (hsection : s.sectionName = sqlSection) {config : Entries}
    {v : Value} (h : s.value? config = some v) : sqlValue (.map config) s.key = .ok v := by
  rw [Setting.value?, hsection] at h
  split at h
  · next sql hsql =>
    have hread (v : Value) : ((Except.ok v : Except AccessError Value).bind fun sql =>
        sql.member (.str s.key)).mapError ChoiceError.access =
        (v.member (.str s.key)).mapError ChoiceError.access := rfl
    rw [sqlValue, member_of_get? hsql, hread, member_of_get? h]
    rfl
  · cases h

/-- Settings that are built have every setting of the section `sql` in normal form. -/
theorem sqlValue_build {s : Setting} (hs : s ∈ checked) (hsection : s.sectionName = sqlSection)
    (raw : Entries) :
    ∃ entries, sqlValue (.map (build raw).config) s.key = .ok (s.valueIn entries).1 := by
  obtain ⟨entries, hvalue⟩ := value?_foldl checked_apart hs ⟨Entries.overlay default raw, []⟩
  exact ⟨entries, sqlValue_of_value? hsection hvalue⟩

/-- What holds of the default and of every normal form holds of the value of a setting. -/
theorem valueIn_of_normal {s : Setting} {P : Value → Prop} (hdefault : P s.value)
    (hnormal : ∀ v w, s.normal? v = some w → P w) (entries : Entries) : P (s.valueIn entries).1 := by
  unfold Setting.valueIn
  split
  · next w hw => exact hnormal _ w hw
  · exact hdefault

namespace ChoiceSetting

variable {α : Type}

/-- The value of a setting that names a choice is the keyword of one. -/
theorem exists_valueIn (c : ChoiceSetting α) (entries : Entries) :
    ∃ a, (c.setting.valueIn entries).1 = .str (c.keyword a) := by
  refine valueIn_of_normal (P := fun w => ∃ a, w = .str (c.keyword a)) ⟨c.default, c.value_eq⟩
    (fun v w hw => ?_) entries
  obtain ⟨a, -, rfl⟩ := c.normal?_eq_some.mp hw
  exact ⟨a, rfl⟩

/-- The choice that settings ask for, without being validated. -/
def chosen (c : ChoiceSetting α) (config : Value) : Except ChoiceError α :=
  (sqlValue config c.setting.key).bind c.ofValue

/-- The setting is read as the choice whose keyword it holds. -/
theorem chosen_of_sqlValue (c : ChoiceSetting α) {config : Value} {a : α}
    (h : sqlValue config c.setting.key = .ok (.str (c.keyword a))) : c.chosen config = .ok a := by
  rw [chosen, h, Except.bind, c.ofValue_keyword]

/-- Settings that are built name a choice. -/
theorem exists_chosen_build (c : ChoiceSetting α) (raw : Entries) :
    ∃ a, c.chosen (.map (build raw).config) = .ok a := by
  obtain ⟨entries, hvalue⟩ := sqlValue_build c.setting_mem c.sectionName_eq raw
  obtain ⟨a, ha⟩ := c.exists_valueIn entries
  exact ⟨a, c.chosen_of_sqlValue (ha ▸ hvalue)⟩

end ChoiceSetting

/-- Settings that are built name a strategy. -/
theorem strategy_build (raw : Entries) :
    ∃ chosen, strategy (.map (build raw).config) = .ok chosen :=
  strategyChoice.exists_chosen_build raw

/-- Settings that are built name a source. -/
theorem source_build (raw : Entries) :
    ∃ chosen, source (.map (build raw).config) = .ok chosen :=
  sourceChoice.exists_chosen_build raw

end Settings

namespace Prepare

/-- The comment removal that a strategy and a source ask for, for one form of a query. -/
def removal (strategy : Strategy) (source : Source) (forLogs : Bool) (sql : String) : String :=
  if source.applies forLogs then Comment.removeComments strategy sql else sql

/-- What a form of a query is. -/
def formText (strategy : Strategy) (source : Source) (forLogs : Bool) (sql : String) : String :=
  if forLogs then Spacing.normalize (removal strategy source forLogs sql)
  else removal strategy source forLogs sql

/-- What is reported while a form of a query is made. -/
def formRecords (strategy : Strategy) (source : Source) (forLogs : Bool) (sql : String) :
    List Log.Record :=
  if source.applies forLogs then
    (Comment.removeReported strategy sql).records ++ [removalRecord strategy forLogs]
  else []

/-- A form of a query with what was reported while it was made. -/
def form (strategy : Strategy) (source : Source) (forLogs : Bool) (sql : String) : Reported :=
  ⟨formText strategy source forLogs sql, formRecords strategy source forLogs sql⟩

/-- Settings that name a strategy and a source lead to the form that these ask for. -/
theorem apply_eq {config : Value} {strategy : Strategy} {source : Source}
    (hstrategy : Settings.strategy config = .ok strategy)
    (hsource : Settings.source config = .ok source) (forLogs : Bool) (sql : String) :
    Prepare.apply config forLogs sql = .ok (form strategy source forLogs sql) := by
  have hremoves : Settings.removesComments config forLogs = .ok (source.applies forLogs) := by
    rw [Settings.removesComments, hsource]
    rfl
  rw [Prepare.apply, hremoves, hstrategy]
  cases happlies : source.applies forLogs <;> cases forLogs <;>
    simp [form, formText, formRecords, removal, happlies] <;> rfl

/-- A mapping is prepared by the settings that it builds to. -/
theorem prepare_map (raw : Entries) (forLogs : Bool) (sql : String) :
    prepare (.map raw) forLogs sql = Prepare.apply (.map (Settings.build raw).config) forLogs sql := by
  have hgo (next : Entries → Except ChoiceError Reported) :
      ((Except.ok raw : Except AccessError Entries).mapError ChoiceError.access >>= next) =
        next raw := rfl
  rw [prepare, Settings.entriesOf_map, hgo]

/-- Every mapping of settings leads to the form that its strategy and source ask for. -/
theorem prepare_map_eq {raw : Entries} {strategy : Strategy} {source : Source}
    (hstrategy : Settings.strategy (.map (Settings.build raw).config) = .ok strategy)
    (hsource : Settings.source (.map (Settings.build raw).config) = .ok source)
    (forLogs : Bool) (sql : String) :
    prepare (.map raw) forLogs sql = .ok (form strategy source forLogs sql) := by
  rw [prepare_map, apply_eq hstrategy hsource]

/-- Saying nothing gives no entries. -/
theorem prepare_null (forLogs : Bool) (sql : String) :
    prepare .null forLogs sql = prepare (.map []) forLogs sql := by
  have hnothing : Settings.entriesOf .null = .ok [] := rfl
  rw [prepare, prepare, hnothing, Settings.entriesOf_map]

/-- Without any entries the settings ask for all comments to be removed from both forms. -/
theorem choices_nothing : Settings.strategy (.map (Settings.build []).config) = .ok .all ∧
    Settings.source (.map (Settings.build []).config) = .ok .all :=
  ⟨by rfl, by rfl⟩

/-- The default settings, given in full, ask for all comments to be removed from both forms. -/
theorem choices_default :
    Settings.strategy (.map (Settings.build Settings.default).config) = .ok .all ∧
      Settings.source (.map (Settings.build Settings.default).config) = .ok .all :=
  ⟨by rfl, by rfl⟩

/-- The ways to ask for the default settings: saying nothing, and giving them in full. -/
def defaultRequests : List Value :=
  [.null, .map Settings.default]

/-- The default settings remove all comments from both forms. -/
theorem prepare_default {raw : Value} (hraw : raw ∈ defaultRequests) (forLogs : Bool)
    (sql : String) : prepare raw forLogs sql = .ok (form .all .all forLogs sql) := by
  rcases List.mem_cons.mp hraw with rfl | hmem
  · rw [prepare_null, prepare_map_eq choices_nothing.1 choices_nothing.2]
  · obtain rfl := List.mem_singleton.mp hmem
    rw [prepare_map_eq choices_default.1 choices_default.2]

/-- By default, both forms of a query are made with all comments removed. -/
theorem prepareVariants_default {raw : Value} (hraw : raw ∈ defaultRequests) (sql : String) :
    prepareVariants raw sql = .ok ⟨form .all .all false sql, form .all .all true sql⟩ := by
  rw [prepareVariants, prepare_default hraw, prepare_default hraw]
  rfl

end Prepare
end SqlPrep
