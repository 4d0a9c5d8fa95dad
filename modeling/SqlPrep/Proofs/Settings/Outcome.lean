import Mathlib.Data.List.Forall2
import SqlPrep.Proofs.Settings.NormalForm
import SqlPrep.Proofs.Settings.Overlay

/-!
# What becomes of given settings

The settings that given entries lead to, said setting by setting and without an overlay: a section
that is given as something else than a mapping is the default one, and each setting of the others is
its default where nothing is given, the normal form of a valid value, and its default with a warning
otherwise. All other entries stay as they are, behind the settings.

Building settings gives just this outcome.
-/

namespace SqlPrep

namespace Settings

open Entries (named names others)

/-! ## The outcome -/

/-- The names of the sections, in the order in which they are checked. -/
def sectionNames : List String := [sqlSection, loggingSection]

/-- The settings of a section, in the order in which they are checked. -/
def settingsIn (name : String) : List Setting :=
  checked.filter fun s => s.sectionName == name

/-- The keys of the settings of a section. -/
def keysIn (name : String) : List String :=
  (settingsIn name).map Setting.key

/-- The fields of a section in which nothing is given. -/
def defaultFields (name : String) : List (String × Value) :=
  (settingsIn name).map fun s => (s.key, s.value)

/-- The normal form of a value of a setting, or its default and a warning. -/
def Setting.normalized (s : Setting) (v : Value) : Value × List Warning :=
  match s.normal? v with
  | some w => (w, [])
  | none => (s.value, [.invalidValue s.sectionName s.key])

/-- What becomes of a setting: its default without a warning if nothing is given. -/
def Setting.outcome (s : Setting) (given : Option Value) : Value × List Warning :=
  match given with
  | none => (s.value, [])
  | some v => s.normalized v

/-- What becomes of each setting of a section that is given as a mapping. -/
def givenFields (name : String) (entries : Entries) : List (String × Value) :=
  (settingsIn name).map fun s => (s.key, (s.outcome (Entries.get? entries (.str s.key))).1)

/-- What becomes of a section: the default one if nothing is given, and with one warning if
something else than a mapping is given. The other entries of a mapping stand behind its settings. -/
def sectionOutcome (name : String) (given : Option Value) : Entries × List Warning :=
  match given with
  | none => (named (defaultFields name), [])
  | some (.map entries) =>
    (named (givenFields name entries) ++ others (keysIn name) entries,
      (settingsIn name).flatMap fun s => (s.outcome (Entries.get? entries (.str s.key))).2)
  | some _ => (named (defaultFields name), [.invalidSection name])

/-- What becomes of given entries: the outcome of each section, with the other entries behind. -/
def outcome (raw : Entries) : Checked :=
  { config :=
      named (sectionNames.map fun name =>
        (name, .map (sectionOutcome name (Entries.get? raw (.str name))).1)) ++
      others sectionNames raw
    warnings := sectionNames.flatMap fun name =>
      (sectionOutcome name (Entries.get? raw (.str name))).2 }

/-- Entries as a mapping gives them: its keys are different, and so are those of each mapping right
inside it. -/
structure Given (raw : Entries) : Prop where
  keys : raw.Distinct
  inner : ∀ e ∈ raw, ∀ entries, e.2 = .map entries → Entries.Distinct entries

/-! ## One section -/

/-- A setting whose section holds a value is put into normal form there. -/
theorem ensure_of_map {s : Setting} {c : Checked} {entries : Entries} {v : Value}
    (hsection : Entries.get? c.config (.str s.sectionName) = some (.map entries))
    (hvalue : Entries.get? entries (.str s.key) = some v) :
    s.ensure c =
      ⟨Entries.put c.config (.str s.sectionName)
          (.map (Entries.put entries (.str s.key) (s.normalized v).1)),
        c.warnings ++ (s.normalized v).2⟩ := by
  have hsectionIn : s.sectionIn c.config = (entries, []) := by rw [Setting.sectionIn, hsection]
  have hvalueIn : s.valueIn entries = s.normalized v := by
    rw [Setting.valueIn, hvalue, Option.getD_some]
    rfl
  simp only [Setting.ensure, hsectionIn, hvalueIn, List.append_nil]

/-- A section that is no mapping is replaced by its defaults, with one warning, when its first
setting is checked. -/
theorem ensure_of_ne_map {s : Setting} {c : Checked}
    (h : ∀ entries, Entries.get? c.config (.str s.sectionName) ≠ some (.map entries)) :
    s.ensure c = s.ensure
      ⟨Entries.put c.config (.str s.sectionName) (.map s.sectionDefault),
        c.warnings ++ [.invalidSection s.sectionName]⟩ := by
  have hbroken : s.sectionIn c.config = (s.sectionDefault, [.invalidSection s.sectionName]) := by
    unfold Setting.sectionIn
    split
    · next entries hentries => exact absurd hentries (h entries)
    · rfl
  have hrepaired : s.sectionIn (Entries.put c.config (.str s.sectionName) (.map s.sectionDefault)) =
      (s.sectionDefault, []) := by
    rw [Setting.sectionIn, Entries.get?_put_self]
  simp only [Setting.ensure, hbroken, hrepaired, Entries.put_put, List.append_nil]

/-- Settings of one section that hold values between other entries are put into normal form one
after the other, each where it stands. -/
theorem foldl_ensure_of_map {name : String} {settings : List Setting}
    (hname : ∀ s ∈ settings, s.sectionName = name) (hkeys : (settings.map Setting.key).Nodup)
    (given : Setting → Value) {front back : Entries}
    (hfront : ∀ s ∈ settings, Entries.get? front (.str s.key) = none) {c : Checked}
    (hconfig : Entries.get? c.config (.str name) =
      some (.map (front ++ named (settings.map fun s => (s.key, given s)) ++ back))) :
    settings.foldl (fun c s => s.ensure c) c =
      ⟨Entries.put c.config (.str name)
          (.map (front ++ named (settings.map fun s => (s.key, (s.normalized (given s)).1)) ++ back)),
        c.warnings ++ settings.flatMap fun s => (s.normalized (given s)).2⟩ := by
  induction settings generalizing front c with
  | nil =>
    rw [List.map_nil] at hconfig
    simp only [List.foldl_nil, List.map_nil, List.flatMap_nil, Entries.put_of_get? hconfig,
      List.append_nil]
  | cons s rest ih =>
    obtain ⟨hhere, hrest⟩ := List.forall_mem_cons.mp hname
    obtain ⟨hfresh, hnodup⟩ := List.nodup_cons.mp hkeys
    obtain ⟨hs, hfront⟩ := List.forall_mem_cons.mp hfront
    have hself : (Value.str s.key).sameKey (.str s.key) = true := sameKey_str.mpr rfl
    have hcons (v : Setting → Value) :
        front ++ named ((s :: rest).map fun s => (s.key, v s)) ++ back =
          front ++ (.str s.key, v s) :: (named (rest.map fun s => (s.key, v s)) ++ back) := by
      simp [named]
    have hmove (entry : Value × Value) (tail : Entries) :
        front ++ entry :: (tail ++ back) = front ++ [entry] ++ tail ++ back := by
      simp
    have hensure := ensure_of_map (hhere ▸ hcons given ▸ hconfig)
      (Entries.get?_append_cons hs hself (given s) _)
    rw [Entries.put_append_cons hs hself, hhere, hmove] at hensure
    have hnext : ∀ t ∈ rest,
        Entries.get? (front ++ [(.str s.key, (s.normalized (given s)).1)]) (.str t.key) = none := by
      intro t ht
      have hne : ¬ (Value.str s.key).sameKey (.str t.key) = true := by
        rw [sameKey_str]
        intro heq
        exact hfresh (Option.some.inj heq ▸ List.mem_map_of_mem ht)
      rw [Entries.get?_append, hfront t ht, Entries.get?, if_neg hne]
      rfl
    rw [List.foldl_cons, hensure, ih hrest hnodup hnext (Entries.get?_put_self _ _ _), Entries.put_put,
      hcons fun s => (s.normalized (given s)).1, hmove, List.flatMap_cons]
    simp only [List.append_assoc]

/-! ## All sections -/

/-- The settings of a section have its name. -/
theorem sectionName_of_mem {name : String} {s : Setting} (hs : s ∈ settingsIn name) :
    s.sectionName = name :=
  beq_iff_eq.mp (List.mem_filter.mp hs).2

/-- The settings of a section are checked. -/
theorem checked_of_mem {name : String} {s : Setting} (hs : s ∈ settingsIn name) : s ∈ checked :=
  (List.mem_filter.mp hs).1

/-- The settings of a section have different keys. -/
theorem keysIn_nodup : ∀ name ∈ sectionNames, (keysIn name).Nodup := by
  decide

/-- The defaults of a section are those of its settings, in order. -/
theorem names_defaultFields (name : String) : Entries.names (defaultFields name) = keysIn name :=
  List.map_map

/-- The outcomes in a section are those of its settings, in order. -/
theorem names_givenFields (name : String) (entries : Entries) :
    Entries.names (givenFields name entries) = keysIn name :=
  List.map_map

/-- Every section has a setting. -/
theorem settingsIn_ne_nil : ∀ name ∈ sectionNames, settingsIn name ≠ [] := by
  intro name hname
  have hkeys : ∀ name ∈ sectionNames, keysIn name ≠ [] := by decide
  exact fun hnil => hkeys name hname (congrArg (List.map Setting.key) hnil)

/-- The default of a section holds the defaults of its settings. -/
theorem sectionDefault_eq : ∀ s ∈ checked, s.sectionDefault = named (defaultFields s.sectionName) :=
  forall_checked rfl rfl rfl rfl

/-- No default of a setting is a mapping. -/
theorem value_ne_map : ∀ s ∈ checked, ∀ entries, s.value ≠ .map entries :=
  forall_checked (fun _ => nofun) (fun _ => nofun) (fun _ => nofun) (fun _ => nofun)

/-- The default of a setting is in normal form. -/
theorem normalized_value {s : Setting} (hs : s ∈ checked) : s.normalized s.value = (s.value, []) := by
  rw [Setting.normalized, normal?_value s hs]

/-- A section that holds its defaults keeps them. -/
theorem foldl_ensure_default {name : String} (hname : name ∈ sectionNames) {c : Checked}
    (hconfig : Entries.get? c.config (.str name) = some (.map (named (defaultFields name)))) :
    (settingsIn name).foldl (fun c s => s.ensure c) c =
      ⟨Entries.put c.config (.str name) (.map (named (defaultFields name))), c.warnings⟩ := by
  have hfront : ∀ s ∈ settingsIn name, Entries.get? [] (.str s.key) = none := fun _ _ => rfl
  have hentries : Entries.get? c.config (.str name) =
      some (.map ([] ++ named ((settingsIn name).map fun s => (s.key, s.value)) ++ [])) := by
    rwa [List.nil_append, List.append_nil]
  have h := foldl_ensure_of_map (fun s hs => sectionName_of_mem hs) (keysIn_nodup name hname)
    Setting.value hfront hentries
  have hfields : (settingsIn name).map (fun s => (s.key, (s.normalized s.value).1)) =
      defaultFields name := by
    apply List.map_congr_left
    intro s hs
    rw [normalized_value (checked_of_mem hs)]
  have hwarnings : (settingsIn name).flatMap (fun s => (s.normalized s.value).2) = [] := by
    rw [List.flatMap_eq_nil_iff]
    intro s hs
    rw [normalized_value (checked_of_mem hs)]
  rwa [hfields, hwarnings, List.nil_append, List.append_nil, List.append_nil] at h

/-- A section that is no mapping becomes its default, with one warning. -/
theorem foldl_ensure_broken {name : String} (hname : name ∈ sectionNames) {c : Checked}
    (hbroken : ∀ entries, Entries.get? c.config (.str name) ≠ some (.map entries)) :
    (settingsIn name).foldl (fun c s => s.ensure c) c =
      ⟨Entries.put c.config (.str name) (.map (named (defaultFields name))),
        c.warnings ++ [.invalidSection name]⟩ := by
  obtain ⟨s, rest, hsettings⟩ := List.exists_cons_of_ne_nil (settingsIn_ne_nil name hname)
  have hs : s ∈ settingsIn name := hsettings ▸ List.mem_cons_self
  have hrepair := ensure_of_ne_map (s := s) (c := c) (sectionName_of_mem hs ▸ hbroken)
  rw [sectionDefault_eq s (checked_of_mem hs), sectionName_of_mem hs] at hrepair
  have hstored : Entries.get? (Checked.mk
      (Entries.put c.config (.str name) (.map (named (defaultFields name))))
      (c.warnings ++ [.invalidSection name])).config (.str name) =
      some (.map (named (defaultFields name))) := Entries.get?_put_self _ _ _
  have hrepaired := foldl_ensure_default hname hstored
  rw [hsettings, List.foldl_cons] at hrepaired ⊢
  rw [hrepair, hrepaired, Entries.put_put]

/-- The default of a section with given entries laid over it. -/
theorem overlay_defaultFields {name : String} (hname : name ∈ sectionNames) {entries : Entries}
    (h : entries.Distinct) :
    Entries.overlay (named (defaultFields name)) entries =
      named ((settingsIn name).map fun s =>
        (s.key, (Entries.get? entries (.str s.key)).getD s.value)) ++
      others (keysIn name) entries := by
  have hnames := names_defaultFields name
  rw [Entries.overlay_named (hnames ▸ keysIn_nodup name hname) h, hnames, others, defaultFields,
    List.map_map]
  congr 2
  apply List.map_congr_left
  intro s hs
  have honto (v : Value) : v.onto (some s.value) = v :=
    Value.onto_of_ne_map (value_ne_map s (checked_of_mem hs)) v
  simp [Entries.laidField, honto]

/-- The section that given settings lead to before it is checked. -/
def laidSection (name : String) (given : Option Value) : Value :=
  (given.map fun v => v.onto (some (.map (named (defaultFields name))))).getD
    (.map (named (defaultFields name)))

/-- Checking the settings of a section gives its outcome. -/
theorem foldl_ensure_settingsIn {name : String} (hname : name ∈ sectionNames) {given : Option Value}
    (hgiven : ∀ entries, given = some (.map entries) → Entries.Distinct entries) {c : Checked}
    (hconfig : Entries.get? c.config (.str name) = some (laidSection name given)) :
    (settingsIn name).foldl (fun c s => s.ensure c) c =
      ⟨Entries.put c.config (.str name) (.map (sectionOutcome name given).1),
        c.warnings ++ (sectionOutcome name given).2⟩ := by
  unfold sectionOutcome
  split
  · rw [foldl_ensure_default hname hconfig, List.append_nil]
  · next entries =>
    have hlaid : laidSection name (some (.map entries)) =
        .map (Entries.overlay (named (defaultFields name)) entries) := rfl
    rw [hlaid, overlay_defaultFields hname (hgiven entries rfl)] at hconfig
    have hfront : ∀ s ∈ settingsIn name, Entries.get? [] (.str s.key) = none := fun _ _ => rfl
    rw [foldl_ensure_of_map (fun s hs => sectionName_of_mem hs) (keysIn_nodup name hname)
      (fun s => (Entries.get? entries (.str s.key)).getD s.value) hfront hconfig]
    have houtcome : ∀ s ∈ settingsIn name,
        s.normalized ((Entries.get? entries (.str s.key)).getD s.value) =
          s.outcome (Entries.get? entries (.str s.key)) := by
      intro s hs
      cases Entries.get? entries (.str s.key) with
      | none => exact normalized_value (checked_of_mem hs)
      | some v => rfl
    have hfields : (settingsIn name).map (fun s =>
        (s.key, (s.normalized ((Entries.get? entries (.str s.key)).getD s.value)).1)) =
        givenFields name entries := by
      apply List.map_congr_left
      intro s hs
      rw [houtcome s hs]
    have hwarnings : (settingsIn name).flatMap (fun s =>
        (s.normalized ((Entries.get? entries (.str s.key)).getD s.value)).2) =
        (settingsIn name).flatMap fun s => (s.outcome (Entries.get? entries (.str s.key))).2 := by
      rw [List.flatMap_def, List.flatMap_def]
      refine congrArg List.flatten (List.map_congr_left fun s hs => ?_)
      rw [houtcome s hs]
    rw [hfields, hwarnings, List.nil_append]
  · next v hmap =>
    have hlaid : laidSection name (some v) = v := Value.onto_eq_self (fun e he => hmap e (he ▸ rfl)) _
    rw [hlaid] at hconfig
    refine foldl_ensure_broken hname fun entries hentries => ?_
    exact hmap entries (Option.some.inj (hconfig.symm.trans hentries))

/-- The sections have different names. -/
theorem sectionNames_nodup : sectionNames.Nodup := by
  decide

/-- The settings are checked section by section. -/
theorem checked_eq : checked = settingsIn sqlSection ++ settingsIn loggingSection :=
  rfl

/-- The default settings are the defaults of the sections. -/
theorem default_eq :
    default = named (sectionNames.map fun name => (name, .map (named (defaultFields name)))) :=
  rfl

/-- Given entries laid over the default settings, before they are checked. -/
theorem overlay_default {raw : Entries} (h : raw.Distinct) :
    Entries.overlay default raw =
      named (sectionNames.map fun name => (name, laidSection name (Entries.get? raw (.str name)))) ++
        others sectionNames raw := by
  have hnames : Entries.names (sectionNames.map fun name =>
      (name, Value.map (named (defaultFields name)))) = sectionNames := rfl
  rw [default_eq, Entries.overlay_named (hnames ▸ sectionNames_nodup) h, hnames, List.map_map]
  rfl

/-- The mappings among the given sections have different keys. -/
theorem Given.section_distinct {raw : Entries} (h : Given raw) {name : String} {entries : Entries}
    (hget : Entries.get? raw (.str name) = some (.map entries)) : entries.Distinct := by
  obtain ⟨k, hk⟩ := Entries.exists_mem_of_get? hget
  exact h.inner _ hk entries rfl

/-- Building settings gives the outcome of each section. -/
theorem build_eq_outcome {raw : Entries} (h : Given raw) : build raw = outcome raw := by
  have hsql : Entries.get? (Entries.overlay default raw) (.str sqlSection) =
      some (laidSection sqlSection (Entries.get? raw (.str sqlSection))) := by
    rw [overlay_default h.keys]
    rfl
  have hlogging : Entries.get? (Entries.put (Entries.overlay default raw) (.str sqlSection)
      (.map (sectionOutcome sqlSection (Entries.get? raw (.str sqlSection))).1)) (.str loggingSection) =
      some (laidSection loggingSection (Entries.get? raw (.str loggingSection))) := by
    rw [Entries.get?_put_of_ne (by decide), overlay_default h.keys]
    rfl
  rw [build, validate, checked_eq, List.foldl_append,
    foldl_ensure_settingsIn (show sqlSection ∈ sectionNames by decide)
      (fun _ => h.section_distinct) hsql,
    foldl_ensure_settingsIn (by decide) (fun _ => h.section_distinct) hlogging,
    overlay_default h.keys, outcome]
  have hwarnings (front back : List Warning) : [] ++ front ++ back = front ++ (back ++ []) := by simp
  rw [hwarnings]
  rfl

/-- Settings are built one by one. Whatever mapping is given, building does not fail: each section
and each setting becomes what is given for it, in normal form, or its default, with one warning if
it is given but not valid, in the order in which they are checked. All other entries are kept in
their order. The normal forms are those of any text, a strategy, a source and a level, and the
defaults are those of the default settings. -/
theorem built_one_by_one (raw : Entries) (h : Given raw) :
    (entriesOf (.map raw)).map build = .ok (outcome raw) ∧
    List.Forall₂ (fun s kept => ∀ v w, s.normal? v = some w ↔ kept v w) checked
      [KeptPath, KeptStrategy, KeptSource, KeptLevel] ∧
    default = named (sectionNames.map fun name => (name, .map (named (defaultFields name)))) := by
  refine ⟨?_, ?_, default_eq⟩
  · rw [entriesOf_map, Except.map, build_eq_outcome h]
  · refine .cons (fun _ _ => normalPath?_eq_some) (.cons (fun _ _ => strategyChoice.normal?_eq_some) ?_)
    exact .cons (fun _ _ => sourceChoice.normal?_eq_some) (.cons (fun _ _ => normalLevel?_eq_some) .nil)

/-- A strategy in mixed case is kept in normal form, a path that is no text and a section that is no
mapping are replaced with a warning each, and all other entries are kept. -/
theorem built_one_by_one_mixed :
    Given [(.int 1, .null), (.str "logging", .int 5),
      (.str "sql", .map [(.str "x", .null), (.str "remove_comments", .str " OneLine "),
        (.str "path", .int 3)])] ∧
    (entriesOf (.map [(.int 1, .null), (.str "logging", .int 5),
      (.str "sql", .map [(.str "x", .null), (.str "remove_comments", .str " OneLine "),
        (.str "path", .int 3)])])).map build =
      .ok ⟨[(.str "sql", .map [(.str "path", .str "/app/sql_queries"),
            (.str "remove_comments", .str "oneline"), (.str "remove_comments_from", .str "all"),
            (.str "x", .null)]),
          (.str "logging", .map [(.str "level", .str "WARNING")]), (.int 1, .null)],
        [.invalidValue "sql" "path", .invalidSection "logging"]⟩ := by
  have hgiven : Given [(.int 1, .null), (.str "logging", .int 5),
      (.str "sql", .map [(.str "x", .null), (.str "remove_comments", .str " OneLine "),
        (.str "path", .int 3)])] := by
    refine ⟨by decide, fun e he entries hentries => ?_⟩
    simp only [List.mem_cons, List.not_mem_nil, or_false] at he
    rcases he with rfl | rfl | rfl
    · cases hentries
    · cases hentries
    · cases hentries
      decide
  exact ⟨hgiven, (built_one_by_one _ hgiven).1.trans rfl⟩

end Settings
end SqlPrep
