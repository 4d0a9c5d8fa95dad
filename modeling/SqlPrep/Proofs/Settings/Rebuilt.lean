import SqlPrep.Proofs.Settings.Outcome

/-!
# Building settings twice

The outcome of given entries is in normal form: it can be given again, each setting in it is valid,
and its other entries are the same. So settings that were built are built from themselves, without a
warning.
-/

namespace SqlPrep.Settings

open Entries (named others)

/-- What becomes of a setting is in normal form. -/
theorem normalized_outcome {s : Setting} (hs : s ∈ checked) (given : Option Value) :
    s.normalized (s.outcome given).1 = ((s.outcome given).1, []) := by
  have hnormal : s.normal? (s.outcome given).1 = some (s.outcome given).1 := by
    cases given with
    | none => exact normal?_value s hs
    | some v =>
      rw [Setting.outcome, Setting.normalized]
      cases hv : s.normal? v with
      | none => exact normal?_value s hs
      | some w => exact normal?_normal s hs v w hv
  rw [Setting.normalized, hnormal]

/-- The settings of a section are found under their keys, whatever stands behind them. -/
theorem get?_settings {name : String} (hname : name ∈ sectionNames) {s : Setting}
    (hs : s ∈ settingsIn name) (value : Setting → Value) (back : Entries) :
    Entries.get? (named ((settingsIn name).map fun s => (s.key, value s)) ++ back) (.str s.key) =
      some (value s) := by
  have hnames : Entries.names ((settingsIn name).map fun s => (s.key, value s)) = keysIn name :=
    List.map_map
  have hmem : (s.key, value s) ∈ (settingsIn name).map fun s => (s.key, value s) :=
    List.mem_map_of_mem hs
  have hget := Entries.lookup_of_mem (hnames ▸ keysIn_nodup name hname) hmem
  rw [Entries.get?_append, Entries.get?_named]
  simp only [Value.text?, Option.bind_some, hget, Option.some_or]

/-- A section of settings in normal form is its own outcome. -/
theorem sectionOutcome_of_normalized {name : String} (hname : name ∈ sectionNames)
    {value : Setting → Value} (hvalue : ∀ s ∈ checked, s.normalized (value s) = (value s, []))
    (entries : Entries) :
    sectionOutcome name (some (.map (named ((settingsIn name).map fun s => (s.key, value s)) ++
        others (keysIn name) entries))) =
      (named ((settingsIn name).map fun s => (s.key, value s)) ++ others (keysIn name) entries, []) := by
  have hnames : Entries.names ((settingsIn name).map fun s => (s.key, value s)) = keysIn name :=
    List.map_map
  have houtcome : ∀ s ∈ settingsIn name, s.outcome (Entries.get? (named ((settingsIn name).map fun s =>
      (s.key, value s)) ++ others (keysIn name) entries) (.str s.key)) = (value s, []) := by
    intro s hs
    rw [get?_settings hname hs]
    exact hvalue s (checked_of_mem hs)
  have hfields : givenFields name (named ((settingsIn name).map fun s => (s.key, value s)) ++
      others (keysIn name) entries) = (settingsIn name).map fun s => (s.key, value s) := by
    apply List.map_congr_left
    intro s hs
    rw [houtcome s hs]
  have hothers : others (keysIn name) (named ((settingsIn name).map fun s => (s.key, value s)) ++
      others (keysIn name) entries) = others (keysIn name) entries := by
    rw [← hnames]
    exact Entries.others_named_append _ _
  simp only [sectionOutcome, hfields, hothers, Prod.mk.injEq, true_and]
  rw [List.flatMap_eq_nil_iff]
  intro s hs
  rw [houtcome s hs]

/-- The outcome of a section holds its settings in normal form and other entries behind them. -/
theorem exists_sectionOutcome_eq (name : String) (given : Option Value) :
    ∃ (value : Setting → Value) (entries : Entries),
      (∀ s ∈ checked, s.normalized (value s) = (value s, [])) ∧
      (sectionOutcome name given).1 =
        named ((settingsIn name).map fun s => (s.key, value s)) ++ others (keysIn name) entries := by
  have hdefault : named (defaultFields name) =
      named ((settingsIn name).map fun s => (s.key, s.value)) ++ others (keysIn name) [] :=
    (List.append_nil _).symm
  unfold sectionOutcome
  split
  · exact ⟨Setting.value, [], fun s hs => normalized_value hs, hdefault⟩
  · next entries =>
    exact ⟨fun s => (s.outcome (Entries.get? entries (.str s.key))).1, entries,
      fun s hs => normalized_outcome hs _, rfl⟩
  · exact ⟨Setting.value, [], fun s hs => normalized_value hs, hdefault⟩

/-- The outcome of a section is its own outcome, without a warning. -/
theorem sectionOutcome_sectionOutcome {name : String} (hname : name ∈ sectionNames)
    (given : Option Value) :
    sectionOutcome name (some (.map (sectionOutcome name given).1)) =
      ((sectionOutcome name given).1, []) := by
  obtain ⟨value, entries, hvalue, houtcome⟩ := exists_sectionOutcome_eq name given
  rw [houtcome, sectionOutcome_of_normalized hname hvalue]

/-- The keys of the outcome of a section are different. -/
theorem sectionOutcome_distinct {name : String} (hname : name ∈ sectionNames) {given : Option Value}
    (hgiven : ∀ entries, given = some (.map entries) → Entries.Distinct entries) :
    (sectionOutcome name given).1.Distinct := by
  have hdefault : (named (defaultFields name)).Distinct := by
    have hnames : (Entries.names (defaultFields name)).Nodup :=
      names_defaultFields name ▸ keysIn_nodup name hname
    have hempty : Entries.Distinct [] := List.Pairwise.nil
    have h := Entries.distinct_named_append hnames hempty
    rwa [others, List.filter_nil, List.append_nil] at h
  unfold sectionOutcome
  split
  · exact hdefault
  · next entries =>
    have hnames := names_givenFields name entries
    rw [← hnames]
    exact Entries.distinct_named_append (hnames ▸ keysIn_nodup name hname) (hgiven entries rfl)
  · exact hdefault

/-- The fields of the sections in the outcome of given entries. -/
def outcomeFields (raw : Entries) : List (String × Value) :=
  sectionNames.map fun name => (name, .map (sectionOutcome name (Entries.get? raw (.str name))).1)

/-- An outcome has the sections, in order. -/
theorem names_outcomeFields (raw : Entries) : Entries.names (outcomeFields raw) = sectionNames :=
  List.map_map

/-- The section of an outcome under a name. -/
theorem get?_outcome {raw : Entries} {name : String} (hname : name ∈ sectionNames) :
    Entries.get? (outcome raw).config (.str name) =
      some (.map (sectionOutcome name (Entries.get? raw (.str name))).1) := by
  have hmem : (name, Value.map (sectionOutcome name (Entries.get? raw (.str name))).1) ∈
      outcomeFields raw := List.mem_map_of_mem hname
  have hlookup := Entries.lookup_of_mem (names_outcomeFields raw ▸ sectionNames_nodup) hmem
  change Entries.get? (named (outcomeFields raw) ++ others sectionNames raw) _ = _
  rw [Entries.get?_append, Entries.get?_named]
  simp only [Value.text?, Option.bind_some, hlookup, Option.some_or]

/-- The outcome of given entries can be given again. -/
theorem Given.outcome {raw : Entries} (h : Given raw) : Given (outcome raw).config where
  keys := by
    have hnames := names_outcomeFields raw
    change (named (outcomeFields raw) ++ others sectionNames raw).Distinct
    rw [← hnames]
    exact Entries.distinct_named_append (hnames ▸ sectionNames_nodup) h.keys
  inner := by
    intro e he entries hentries
    rcases List.mem_append.mp he with hsection | hother
    · obtain ⟨f, hf, rfl⟩ := List.mem_map.mp hsection
      obtain ⟨name, hname, rfl⟩ := List.mem_map.mp hf
      obtain rfl := Value.map.inj hentries
      exact sectionOutcome_distinct hname fun _ => h.section_distinct
    · exact h.inner e (List.mem_filter.mp hother).1 entries hentries

/-- The outcome of given entries is its own outcome, without a warning. -/
theorem outcome_outcome (raw : Entries) :
    outcome (outcome raw).config = ⟨(outcome raw).config, []⟩ := by
  have hsection : ∀ name ∈ sectionNames,
      sectionOutcome name (Entries.get? (outcome raw).config (.str name)) =
        ((sectionOutcome name (Entries.get? raw (.str name))).1, []) := by
    intro name hname
    rw [get?_outcome hname, sectionOutcome_sectionOutcome hname]
  have hfields : outcomeFields (outcome raw).config = outcomeFields raw := by
    apply List.map_congr_left
    intro name hname
    rw [hsection name hname]
  have hothers : others sectionNames (outcome raw).config = others sectionNames raw := by
    have hnames := names_outcomeFields raw
    change others sectionNames (named (outcomeFields raw) ++ others sectionNames raw) = _
    rw [← hnames]
    exact Entries.others_named_append _ _
  have hwarnings : (outcome (outcome raw).config).warnings = [] := by
    refine List.flatMap_eq_nil_iff.mpr fun name hname => ?_
    rw [hsection name hname]
  have hconfig : (outcome (outcome raw).config).config = (outcome raw).config := by
    change named (outcomeFields (outcome raw).config) ++ others sectionNames (outcome raw).config = _
    rw [hfields, hothers]
    rfl
  have hparts (c : Checked) : c = ⟨c.config, c.warnings⟩ := rfl
  rw [hparts (outcome (outcome raw).config), hconfig, hwarnings]

/-- Settings that were built are built from themselves, without a warning. -/
theorem build_build {raw : Entries} (h : Given raw) :
    build (build raw).config = ⟨(build raw).config, []⟩ := by
  rw [build_eq_outcome h, build_eq_outcome h.outcome, outcome_outcome]

/-- Building reaches a fixed point at once. Whatever mapping is given, building does not fail, and
the settings that it leads to build to themselves: the same entries in the same order at every
depth, and no warning. -/
theorem build_reaches_fixed_point (raw : Entries) (h : Given raw) :
    ∃ first, (entriesOf (.map raw)).map build = .ok first ∧
      (entriesOf (.map first.config)).map build = .ok ⟨first.config, []⟩ := by
  refine ⟨build raw, ?_, ?_⟩
  · rw [entriesOf_map, Except.map]
  · rw [entriesOf_map, Except.map, build_build h]

/-- A section that is no mapping and a level in mixed case are put right once; further entries stay
behind the settings, also those that only look like values of settings. -/
theorem build_reaches_fixed_point_repaired :
    ∃ raw settled : Entries,
      raw = [(.float .nan, .null), (.str "sql", .int 5), (.str "logging", .map [(.int 1, .list []),
        (.str "level", .str "wArNıNg"), (.str "file", .choice (.strategy .oneline))])] ∧
      settled = [(.str "sql", .map defaultSql),
        (.str "logging", .map [(.str "level", .str "WARNING"), (.int 1, .list []),
          (.str "file", .choice (.strategy .oneline))]), (.float .nan, .null)] ∧
      Given raw ∧
      (entriesOf (.map raw)).map build = .ok ⟨settled, [.invalidSection "sql"]⟩ ∧
      (entriesOf (.map settled)).map build = .ok ⟨settled, []⟩ := by
  obtain ⟨raw, hraw⟩ : ∃ raw : Entries, raw = [(.float .nan, .null), (.str "sql", .int 5),
      (.str "logging", .map [(.int 1, .list []), (.str "level", .str "wArNıNg"),
        (.str "file", .choice (.strategy .oneline))])] := ⟨_, rfl⟩
  have hgiven : Given raw := by
    subst hraw
    refine ⟨by decide, fun e he entries hentries => ?_⟩
    simp only [List.mem_cons, List.not_mem_nil, or_false] at he
    rcases he with rfl | rfl | rfl
    · cases hentries
    · cases hentries
    · cases hentries
      decide
  obtain ⟨first, hfirst, hsettled⟩ := build_reaches_fixed_point raw hgiven
  have hbuilt : (entriesOf (.map raw)).map build =
      .ok ⟨[(.str "sql", .map defaultSql),
        (.str "logging", .map [(.str "level", .str "WARNING"), (.int 1, .list []),
          (.str "file", .choice (.strategy .oneline))]), (.float .nan, .null)],
        [.invalidSection "sql"]⟩ := by
    subst hraw
    rfl
  obtain rfl := Except.ok.inj (hfirst.symm.trans hbuilt)
  exact ⟨raw, _, hraw, rfl, hgiven, hbuilt, hsettled⟩

/-- No entries build to the default settings. -/
theorem build_nil : build [] = ⟨default, []⟩ :=
  rfl

/-! ## Valid settings -/

/-- Settings that hold each setting with a value in normal form. -/
def Valid (config : Entries) : Prop :=
  ∀ s ∈ checked, ∃ v, s.value? config = some v ∧ s.normal? v = some v

/-- Settings that were built are valid, whatever they were built from. -/
theorem build_valid (raw : Entries) : Valid (build raw).config := by
  intro s hs
  obtain ⟨entries, hvalue⟩ := value?_foldl checked_apart hs ⟨Entries.overlay default raw, []⟩
  refine ⟨_, hvalue, ?_⟩
  unfold Setting.valueIn
  split
  · next v hv => exact normal?_normal s hs _ v hv
  · exact normal?_value s hs

end SqlPrep.Settings
