import SqlPrep.Proofs.Log.Session
import SqlPrep.Proofs.Result

/-!
# Configurations that name no level

Settings may name the level of the log by any value. A name that stands for nothing leads to
`WARNING`, and the name of a level leads to the level that changing it by name would set. Only the
two names that belong to the form of lines are found and are no levels: a configuration by one of
them fails. It fails after the handler has been installed, so that on a log without one it leaves a
new handler behind that writes records of every level.
-/

namespace SqlPrep.Log

/-- The settings from which a level can be read, and the value that is read. It is `WARNING` if
there are no settings, none for the log or none for its level. -/
inductive ReadsLevel : Value → Value → Prop
  | nothing {config : Value} (h : config.isBlankValue = true) : ReadsLevel config (.str "WARNING")
  | absent {entries : Entries} (h : Entries.get? entries (.str "logging") = none) :
      ReadsLevel (.map entries) (.str "WARNING")
  | blank {entries : Entries} {part : Value} (h : Entries.get? entries (.str "logging") = some part)
      (hblank : part.isBlankValue = true) : ReadsLevel (.map entries) (.str "WARNING")
  | part {entries fields : Entries}
      (h : Entries.get? entries (.str "logging") = some (.map fields)) :
      ReadsLevel (.map entries) ((Entries.get? fields (.str "level")).getD (.str "WARNING"))

/-- A name that belongs to the form of lines. -/
def IsFormName (name : String) : Prop := name ∈ formNames.map Prod.fst

/-- Whether a name belongs to the form of lines is decided by looking it up. -/
instance (name : String) : Decidable (IsFormName name) :=
  inferInstanceAs (Decidable (name ∈ formNames.map Prod.fst))

/-- Settings whose level is a name that belongs to the form of lines. -/
def AsksForForm (config : Value) : Prop := ∃ v, ReadsLevel config v ∧ IsFormName (levelName v)

/-- The level that a name leads to: its own, or `WARNING` if it has none. -/
def levelOrWarning (name : String) : Int :=
  (levelOfName? name).getD warning

variable {c : Console} {h : Handler} {level : Int}

/-- A log whose only handler is the installed one, with both at the same level. -/
structure Console.RunsAt (c : Console) (h : Handler) (level : Int) : Prop where
  installed : c.installed = some h
  attached : c.attached = [h]
  root : c.root = level
  handler : c.handler = some level

/-- A log whose handler, if one is installed, has the level of the log. -/
def Console.AtOneLevel (c : Console) : Prop :=
  ∀ h, c.installed = some h → c.handler = some c.root

/-! ## Reading the name of the level -/

/-- An absent value gives the default, a mapping its entry or the default, and nothing else gives a
value. -/
theorem entryOr_eq_ok {v found fallback : Value} {key : String} :
    entryOr v key fallback = .ok found ↔
      (v.isBlankValue = true ∧ fallback = found) ∨
        ∃ entries, v = .map entries ∧ (Entries.get? entries (.str key)).getD fallback = found := by
  cases v with
  | map entries =>
    cases entries with
    | nil => simp [entryOr, Value.isBlankValue, Entries.get?]
    | cons e entries => simp [entryOr, Value.isBlankValue]
  | _ =>
    unfold entryOr
    split
    · next hblank => simp [hblank]
    · next hblank => simp [hblank]

/-- The settings from which a value is read are those that have a level to read. -/
theorem levelIn_eq_ok {config v : Value} : levelIn config = .ok v ↔ ReadsLevel config v := by
  rw [levelIn, bind_eq_ok]
  simp only [entryOr_eq_ok]
  constructor
  · rintro ⟨part, ⟨hconfig, rfl⟩ | ⟨entries, rfl, hpart⟩, hv⟩
    · obtain ⟨-, rfl⟩ | ⟨fields, hmap, -⟩ := hv
      · exact .nothing hconfig
      · cases hmap
    · cases hentry : Entries.get? entries (.str "logging") with
      | none =>
        rw [hentry, Option.getD_none] at hpart
        subst hpart
        obtain ⟨-, rfl⟩ | ⟨fields, hmap, -⟩ := hv
        · exact .absent hentry
        · cases hmap
      | some found =>
        rw [hentry, Option.getD_some] at hpart
        subst hpart
        obtain ⟨hblank, rfl⟩ | ⟨fields, rfl, rfl⟩ := hv
        · exact .blank hentry hblank
        · exact .part hentry
  · intro hreads
    cases hreads with
    | nothing hblank =>
      exact ⟨_, Or.inl ⟨hblank, rfl⟩, Or.inl ⟨rfl, rfl⟩⟩
    | @absent entries hentry =>
      exact ⟨.null, Or.inr ⟨entries, rfl, by rw [hentry]; rfl⟩, Or.inl ⟨rfl, rfl⟩⟩
    | @blank entries part hentry hblank =>
      exact ⟨part, Or.inr ⟨entries, rfl, by rw [hentry]; rfl⟩, Or.inl ⟨hblank, rfl⟩⟩
    | @part entries fields hentry =>
      exact ⟨.map fields, Or.inr ⟨entries, rfl, by rw [hentry]; rfl⟩, Or.inr ⟨fields, rfl, rfl⟩⟩

/-- The name in settings is that of the value that is read from them, if this has a text. -/
theorem levelNameIn_of_reads {config v : Value} (hreads : ReadsLevel config v) :
    levelNameIn config = if v.isWritable then .ok (levelName v) else .error .integerLength := by
  rw [levelNameIn, levelIn_eq_ok.mpr hreads]
  rfl

/-- A name is read from settings that have a level to read. -/
theorem exists_readsLevel {config : Value} {name : String} (hname : levelNameIn config = .ok name) :
    ∃ v, ReadsLevel config v ∧ levelName v = name := by
  obtain ⟨v, hlevel, hname⟩ := bind_eq_ok.mp hname
  have hreads := levelIn_eq_ok.mp (mapError_eq_ok.mp hlevel)
  refine ⟨v, hreads, ?_⟩
  split at hname
  · exact Except.ok.inj hname
  · cases hname

/-! ## What a name leads to -/

/-- The two names that belong to the form of lines. -/
theorem isFormName_iff {name : String} :
    IsFormName name ↔ name = "BASIC_FORMAT" ∨ name = "_STYLES" := by
  simp [IsFormName, formNames]

/-- No level is named like something that belongs to the form of lines. -/
theorem levelOfName?_of_isFormName {name : String} (hform : IsFormName name) :
    levelOfName? name = none := by
  rcases isFormName_iff.mp hform with rfl | rfl <;> decide

/-- A name that belongs to the form of lines is found, and sets no level. -/
theorem level?_of_isFormName {name : String} (hform : IsFormName name) :
    ∃ cause, ((named? name).getD (.level warning)).level? = .error cause := by
  rcases isFormName_iff.mp hform with rfl | rfl
  · exact ⟨.unknown basicForm, rfl⟩
  · exact ⟨.noLevel formStyles, rfl⟩

/-- Any other name sets its own level, or `WARNING`. -/
theorem level?_of_not_isFormName {name : String} (hform : ¬ IsFormName name) :
    ((named? name).getD (.level warning)).level? = .ok (levelOrWarning name) := by
  unfold named? levelOrWarning
  cases levelOfName? name with
  | some level => rfl
  | none =>
    have hlookup : formNames.lookup name = none := by
      rw [List.lookup_eq_none_iff]
      intro e he
      exact bne_iff_ne.mpr fun hname => hform (hname ▸ List.mem_map_of_mem he)
    simp only [hlookup]
    rfl

/-- A text names a level in settings exactly if it is accepted as this level at run time. -/
theorem levelOfName?_levelName (text : String) :
    levelOfName? (levelName (.str text)) = (runtimeLevel (.str text)).toOption :=
  namedLevel?_eq (.str text)

/-- A text that is accepted at run time leads to the same level in settings. -/
theorem levelOrWarning_of_accepted {text : String}
    (haccepted : runtimeLevel (.str text) = .ok level) :
    ¬ IsFormName (levelName (.str text)) ∧ levelOrWarning (levelName (.str text)) = level := by
  have hname : levelOfName? (levelName (.str text)) = some level := by
    rw [levelOfName?_levelName, haccepted]
    rfl
  refine ⟨fun hform => ?_, ?_⟩
  · rw [levelOfName?_of_isFormName hform] at hname
    cases hname
  · rw [levelOrWarning, hname, Option.getD_some]

/-- A text that is refused at run time leads to `WARNING` in settings. -/
theorem levelOrWarning_of_refused {text : String} {cause : LevelError}
    (hrefused : runtimeLevel (.str text) = .error cause) :
    levelOrWarning (levelName (.str text)) = warning := by
  rw [levelOrWarning, levelOfName?_levelName, hrefused]
  rfl

/-! ## One configuration -/

namespace Change

variable {config v : Value}

/-- Settings with any other name configure the log to the level of this name, or to `WARNING`. -/
theorem on_configure_of_not_isFormName (hs : c.Sound) (hreads : ReadsLevel config v)
    (hwritable : v.isWritable = true) (hform : ¬ IsFormName (levelName v)) :
    (configure config).on c =
      (.ok c.nextHandler, c.withHandler.atLevel (levelOrWarning (levelName v))) := by
  rw [on_configure hs, levelNameIn_of_reads hreads, if_pos hwritable]
  simp only [level?_of_not_isFormName hform]

/-- Settings with a name that belongs to the form of lines fail after the handler was installed. -/
theorem on_configure_of_isFormName (hs : c.Sound) (hreads : ReadsLevel config v)
    (hwritable : v.isWritable = true) (hform : IsFormName (levelName v)) :
    ∃ cause, (configure config).on c = (.error cause, c.withHandler) := by
  obtain ⟨cause, hlevel⟩ := level?_of_isFormName hform
  refine ⟨cause, ?_⟩
  rw [on_configure hs, levelNameIn_of_reads hreads, if_pos hwritable]
  simp only [hlevel]

/-- Settings whose level has no text fail before anything is done. -/
theorem on_configure_of_not_isWritable (hs : c.Sound) (hreads : ReadsLevel config v)
    (hwritable : v.isWritable = false) : (configure config).on c = (.error .integerLength, c) := by
  rw [on_configure hs, levelNameIn_of_reads hreads, if_neg (by rw [hwritable]; exact nofun)]

end Change

namespace Console

/-- A handler that is installed and put at a level runs at it. -/
theorem Sound.runsAt (hs : c.Sound) (level : Int) :
    (c.withHandler.atLevel level).RunsAt c.nextHandler level where
  installed := c.withHandler_installed
  attached := by
    have hattached := hs.withHandler.attached
    rwa [withHandler_installed] at hattached
  root := rfl
  handler := hs.withHandler.atLevel_handler c.withHandler_installed

/-- Setting both levels leaves the log and its handler at one level. -/
theorem Sound.atOneLevel (hs : c.Sound) (level : Int) : (c.atLevel level).AtOneLevel :=
  fun _ hh => hs.atLevel_handler hh

/-- An installed handler is taken again. -/
theorem nextHandler_of_installed (hc : c.installed = some h) : c.nextHandler = h := by
  rw [nextHandler, hc, Option.getD_some]

/-- A new handler has no level of its own. -/
theorem withHandler_handler (hc : c.installed = none) : c.withHandler.handler = some 0 := by
  simp [withHandler, handler, hc]

/-- Installing a handler leaves the level of the log. -/
theorem withHandler_root (c : Console) : c.withHandler.root = c.root := by
  cases hc : c.installed <;> simp [withHandler, hc]

end Console

/-! ## Whole sessions -/

namespace Session

variable {s : Session}

/-- A call keeps the log and its handler at one level, unless it asks for the form of lines. -/
theorem Consistent.atOneLevel_make (hs : s.Consistent) (hlevel : s.console.AtOneLevel) {call : Call}
    (hcall : ∀ config, call = .configure config → ¬ AsksForForm config) :
    (s.make call).console.AtOneLevel := by
  cases call with
  | configure config =>
    rw [Session.make, Change.on_configure hs.sound]
    cases hname : levelNameIn config with
    | error cause => exact hlevel
    | ok name =>
      obtain ⟨v, hreads, rfl⟩ := exists_readsLevel hname
      have hform : ¬ IsFormName (levelName v) := fun hform => hcall config rfl ⟨v, hreads, hform⟩
      simp only [level?_of_not_isFormName hform]
      exact hs.sound.withHandler.atOneLevel _
  | setLevel name =>
    rw [Session.make, Change.on_setLevel]
    cases runtimeLevel name with
    | error cause => exact hlevel
    | ok level => exact hs.sound.atOneLevel level

/-- So does any number of them. -/
theorem Consistent.atOneLevel_run (hs : s.Consistent) (hlevel : s.console.AtOneLevel)
    {calls : List Call} (hcalls : ∀ config, .configure config ∈ calls → ¬ AsksForForm config) :
    (calls.foldl Session.make s).console.AtOneLevel := by
  induction calls generalizing s with
  | nil => exact hlevel
  | cons call calls ih =>
    have hcall : ∀ config, call = .configure config → ¬ AsksForForm config := by
      rintro config rfl
      exact hcalls config List.mem_cons_self
    exact ih (hs.make call) (hs.atOneLevel_make hlevel hcall)
      fun config hmem => hcalls config (List.mem_cons_of_mem call hmem)

end Session

/-- Settings that ask for a level have it to read. -/
theorem readsLevel_levelSettings (v : Value) : ReadsLevel (levelSettings v) v :=
  @ReadsLevel.part [(.str "logging", .map [(.str "level", v)])] [(.str "level", v)] rfl

/-- In every state that a session reaches, settings from which a level can be read configure the log
to the level of their name, or to `WARNING` if the name stands for nothing, and give back the
installed handler. There are two exceptions. By a name that belongs to the form of lines the
configuration fails, changes nothing if a handler is installed, and otherwise leaves a new one that
has no level of its own. And a value with an integer of too many digits has no text, so that the
configuration fails and changes nothing. So a text that is accepted as a level at run time leads to
the same level in settings, and any other one, but for the two names, to `WARNING`; and without these
names the log and its handler are always at one level. -/
theorem configure_falls_back (calls : List Call) :
    let c := (session calls).console
    (∀ config v, ReadsLevel config v → v.isWritable = true → ¬ IsFormName (levelName v) →
      ∃ h after, (Change.configure config).on c = (.ok h, after) ∧
        (∀ earlier, c.installed = some earlier → h = earlier) ∧
        after.RunsAt h (levelOrWarning (levelName v))) ∧
    (∀ config v, ReadsLevel config v → v.isWritable = true → IsFormName (levelName v) →
      ∃ cause after, (Change.configure config).on c = (.error cause, after) ∧
        (c.installed.isSome = true → after = c) ∧
        (c.installed = none → after.root = c.root ∧ after.handler = some 0)) ∧
    (∀ config v, ReadsLevel config v → v.isWritable = false →
      (Change.configure config).on c = (.error .integerLength, c)) ∧
    (∀ config text, ReadsLevel config (.str text) →
      (∀ changed, (Change.setLevel (.str text)).on c = (.ok (), changed) →
        ∃ h after, (Change.configure config).on c = (.ok h, after) ∧
          after.RunsAt h changed.root) ∧
      (∀ cause, ((Change.setLevel (.str text)).on c).1 = .error cause →
        ¬ IsFormName (levelName (.str text)) →
        ∃ h after, (Change.configure config).on c = (.ok h, after) ∧ after.RunsAt h warning)) ∧
    ((∀ config, .configure config ∈ calls → ¬ AsksForForm config) → c.AtOneLevel) := by
  intro c
  have hconsistent : (session calls).Consistent := Session.consistent_empty.run calls
  have hs : c.Sound := hconsistent.sound
  have hreturns {config v : Value} (hreads : ReadsLevel config v) (hwritable : v.isWritable = true)
      (hform : ¬ IsFormName (levelName v)) :
      ∃ h after, (Change.configure config).on c = (.ok h, after) ∧
        (∀ earlier, c.installed = some earlier → h = earlier) ∧
        after.RunsAt h (levelOrWarning (levelName v)) :=
    ⟨_, _, Change.on_configure_of_not_isFormName hs hreads hwritable hform,
      fun _ => Console.nextHandler_of_installed, hs.runsAt _⟩
  refine ⟨fun config v => hreturns, fun config v hreads hwritable hform => ?_,
    fun config v => Change.on_configure_of_not_isWritable hs, fun config text hreads => ?_,
    fun hcalls => ?_⟩
  · obtain ⟨cause, hfails⟩ := Change.on_configure_of_isFormName hs hreads hwritable hform
    refine ⟨cause, _, hfails, fun hinstalled => ?_, fun hnone => ?_⟩
    · obtain ⟨h, hh⟩ := Option.isSome_iff_exists.mp hinstalled
      exact Console.withHandler_of_installed hh
    · exact ⟨c.withHandler_root, Console.withHandler_handler hnone⟩
  · rw [Change.on_setLevel]
    cases hlevel : runtimeLevel (.str text) with
    | error cause =>
      refine ⟨nofun, fun _ _ hform => ?_⟩
      obtain ⟨h, after, hconfigured, -, hruns⟩ := hreturns hreads rfl hform
      exact ⟨h, after, hconfigured, levelOrWarning_of_refused hlevel ▸ hruns⟩
    | ok level =>
      obtain ⟨hform, hname⟩ := levelOrWarning_of_accepted hlevel
      refine ⟨fun changed hchanged => ?_, nofun⟩
      obtain rfl := (Prod.mk.inj hchanged).2
      obtain ⟨h, after, hconfigured, -, hruns⟩ := hreturns hreads rfl hform
      exact ⟨h, after, hconfigured, hname ▸ hruns⟩
  · exact Session.consistent_empty.atOneLevel_run nofun hcalls

/-- A name in upper case is compared as Unicode has it: a dotless i leads to `INFO`, and a ligature to
a name that belongs to the form of lines. An integer of 5001 digits cannot be compared at all. -/
theorem configure_falls_back_after_error :
    let c := (session [.setLevel (.str "error")]).console
    (ReadsLevel (levelSettings (.str "ınfo")) (.str "ınfo") ∧
      ¬ IsFormName (levelName (.str "ınfo")) ∧
      ∃ h after, (Change.configure (levelSettings (.str "ınfo"))).on c = (.ok h, after) ∧
        after.RunsAt h 20) ∧
    (ReadsLevel (levelSettings (.str "_ﬆyles")) (.str "_ﬆyles") ∧
      IsFormName (levelName (.str "_ﬆyles")) ∧
      ∃ cause after, (Change.configure (levelSettings (.str "_ﬆyles"))).on c = (.error cause, after) ∧
        after.root = 40 ∧ after.handler = some 0) ∧
    (Change.configure (levelSettings (.int (Number.power 10 5000)))).on c =
      (.error .integerLength, c) := by
  intro c
  obtain ⟨hreturns, hfails, hrefuses, -, -⟩ := configure_falls_back [.setLevel (.str "error")]
  have hlevel : ¬ IsFormName (levelName (.str "ınfo")) := by decide +kernel
  have hform : IsFormName (levelName (.str "_ﬆyles")) := by decide +kernel
  have hasked : levelOrWarning (levelName (.str "ınfo")) = 20 := by decide +kernel
  have hfresh : c.installed = none ∧ c.root = 40 := by decide +kernel
  have hlong : (Value.int (Number.power 10 5000)).isWritable = false := by decide +kernel
  have hreads (v : Value) := readsLevel_levelSettings v
  obtain ⟨h, after, hconfigured, -, hruns⟩ := hreturns _ _ (hreads (.str "ınfo")) rfl hlevel
  obtain ⟨cause, left, hfailed, -, hleft⟩ := hfails _ _ (hreads (.str "_ﬆyles")) rfl hform
  obtain ⟨hroot, hhandler⟩ := hleft hfresh.1
  exact ⟨⟨hreads _, hlevel, h, after, hconfigured, hasked ▸ hruns⟩,
    ⟨hreads _, hform, cause, left, hfailed, hroot.trans hfresh.2, hhandler⟩,
    hrefuses _ _ (hreads _) hlong⟩

/-- A level can be read from settings that configuring the log nevertheless fails for. -/
theorem configure_not_total :
    ¬ ∀ (calls : List Call) (config v : Value), ReadsLevel config v →
      ∃ h after, (Change.configure config).on (session calls).console = (.ok h, after) := by
  intro htotal
  have hfailed : ((Change.configure (levelSettings (.str "basic_format"))).on
      (session []).console).1 = .error (.unknown basicForm) := rfl
  obtain ⟨h, after, hreturned⟩ := htotal [] _ _ (readsLevel_levelSettings (.str "basic_format"))
  rw [hreturned] at hfailed
  cases hfailed

end SqlPrep.Log
