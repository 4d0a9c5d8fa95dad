import SqlPrep.Settings.Default
import SqlPrep.Settings.Overlay

/-!
# Validating settings

Lays given settings over the defaults and puts every setting into its normal form. A section that is
no mapping and a value that is not valid are replaced by their defaults, each with one warning; all
other entries are kept as they are.
-/

namespace SqlPrep.Settings

/-- What was replaced by its default. -/
inductive Warning where
  | invalidSection (name : String)
  | invalidValue (sectionName key : String)
  deriving DecidableEq

/-- The wording of a warning. -/
def Warning.message : Warning → String
  | .invalidSection name => s!"Invalid section {name}; using default."
  | .invalidValue sectionName key => s!"Invalid value for {sectionName}.{key}; using default."

/-- The levels that the settings can name. -/
def levelNames : List String := ["CRITICAL", "ERROR", "WARNING", "INFO", "DEBUG"]

/-- The path setting is any text, as given. -/
def normalPath? (v : Value) : Option Value :=
  v.text?.map fun _ => v

/-- The strategy setting names a strategy, and is kept as its keyword. -/
def normalStrategy? (v : Value) : Option Value :=
  match v with
  | .str s => (Strategy.ofText? s).map (.str ·.keyword)
  | .choice (.strategy s) => some (.str s.keyword)
  | _ => none

/-- The source setting names a source, and is kept as its keyword. -/
def normalSource? (v : Value) : Option Value :=
  match v with
  | .str s => (Source.ofText? s).map (.str ·.keyword)
  | .choice (.source s) => some (.str s.keyword)
  | _ => none

/-- The level setting names a level in any case, and is kept in upper case. -/
def normalLevel? (v : Value) : Option Value := do
  let name := String.ofList (Text.upper (← v.text?).toList)
  if name ∈ levelNames then return .str name else none

/-- A setting: its section with the section's defaults, its key, its default and its normal form. -/
structure Setting where
  sectionName : String
  sectionDefault : Entries
  key : String
  value : Value
  normal? : Value → Option Value

/-- The settings in the order in which they are checked. -/
def checked : List Setting :=
  [⟨sqlSection, defaultSql, pathKey, .str "/app/sql_queries", normalPath?⟩,
    ⟨sqlSection, defaultSql, strategyKey, .str Strategy.all.keyword, normalStrategy?⟩,
    ⟨sqlSection, defaultSql, sourceKey, .str Source.all.keyword, normalSource?⟩,
    ⟨loggingSection, defaultLogging, levelKey, .str "WARNING", normalLevel?⟩]

/-- Settings with the warnings about what was replaced in them. -/
structure Checked where
  config : Entries
  warnings : List Warning

/-- The entries of the section of a setting, and a warning if they are its defaults because the
section is no mapping. -/
def Setting.sectionIn (s : Setting) (config : Entries) : Entries × List Warning :=
  match Entries.get? config (.str s.sectionName) with
  | some (.map entries) => (entries, [])
  | _ => (s.sectionDefault, [.invalidSection s.sectionName])

/-- The normal form of a setting's value in its section, and a warning if it is the default because
the value is not valid. -/
def Setting.valueIn (s : Setting) (entries : Entries) : Value × List Warning :=
  match s.normal? ((Entries.get? entries (.str s.key)).getD .null) with
  | some v => (v, [])
  | none => (s.value, [.invalidValue s.sectionName s.key])

/-- Puts one setting into its normal form. -/
def Setting.ensure (s : Setting) (c : Checked) : Checked :=
  let (entries, sectionWarnings) := s.sectionIn c.config
  let (value, valueWarnings) := s.valueIn entries
  { config := Entries.put c.config (.str s.sectionName) (.map (Entries.put entries (.str s.key) value))
    warnings := c.warnings ++ sectionWarnings ++ valueWarnings }

/-- Puts all settings into their normal form. -/
def validate (config : Entries) : Checked :=
  checked.foldl (fun c s => s.ensure c) ⟨config, []⟩

/-- The settings that given entries lead to. -/
def build (raw : Entries) : Checked :=
  validate (Entries.overlay default raw)

/-- The entries that a value gives as settings: none for a value that counts as absent. -/
def entriesOf (raw : Value) : Except AccessError Entries :=
  if raw.isBlankValue then .ok []
  else match raw with
    | .map entries => .ok entries
    | v => .error (.noOperation v "items")

end SqlPrep.Settings
