import SqlPrep.Log.Record
import SqlPrep.Value.Access

/-!
# The console log

Handlers write records to the console. The first configuration makes one, attaches it to the log and
keeps it as the installed handler; later ones take the same handler again and change its level. The
settings name the level, and it can be changed by name afterwards. A record is written when it
reaches both the level of the log and that of an attached handler.

The level of the log and that of its handler are written one after the other, and each refuses what
is not a level, so that a configuration can fail after it has installed its handler.
-/

namespace SqlPrep.Log

/-- A handler, by its number in the order in which handlers are made. -/
abbrev Handler := Nat

/-- The state of the log: its own level, the handlers attached to it, the one that configuration
keeps as installed, and the level of every handler that was made. -/
structure Console where
  root : Int := warning
  attached : List Handler := []
  installed : Option Handler := none
  levels : List Int := []
  deriving DecidableEq, Inhabited

/-- Why a level cannot be set. -/
inductive LevelError where
  | unknown (text : String)
  | unnamed (value : Value)
  | noLevel (text : String)
  | integerLength
  | access (cause : AccessError)

/-- The wording of each cause. -/
def LevelError.message : LevelError → String
  | .unknown text => s!"Unknown level: '{text}'"
  | .unnamed value => s!"Invalid log level: {value.plain}"
  | .noLevel text => s!"Level not an integer or a valid string: {text}"
  | .integerLength => Value.unwritableMessage
  | .access cause => cause.message

/-- What a name of the logging library stands for: a level, a text, or a table that is only
shown. -/
inductive Named where
  | level (value : Int)
  | text (value : String)
  | table (shown : String)
  deriving DecidableEq

/-- The form in which a line is written when nothing else is asked for. -/
def basicForm : String := "%(levelname)s:%(name)s:%(message)s"

/-- The forms in which the fields of a line can be referred to, as they are shown. -/
def formStyles : String :=
  "\x7b'%': (<class 'logging.PercentStyle'>, '%(levelname)s:%(name)s:%(message)s'), " ++
    "'\x7b': (<class 'logging.StrFormatStyle'>, '\x7blevelname\x7d:\x7bname\x7d:\x7bmessage\x7d'), " ++
    "'$': (<class 'logging.StringTemplateStyle'>, '$\x7blevelname\x7d:$\x7bname\x7d:$\x7bmessage\x7d')\x7d"

/-- The names in upper case that belong to the form of lines. -/
def formNames : List (String × Named) :=
  [("BASIC_FORMAT", .text basicForm), ("_STYLES", .table formStyles)]

/-- What a name in upper case stands for: a level, or something that belongs to the form of
lines. -/
def named? (name : String) : Option Named :=
  match levelOfName? name with
  | some level => some (.level level)
  | none => formNames.lookup name

/-- The level that something named sets. A text sets the level that it is itself the name of. -/
def Named.level? : Named → Except LevelError Int
  | .level value => .ok value
  | .text value =>
    match levelOfName? value with
    | some found => .ok found
    | none => .error (.unknown value)
  | .table shown => .error (.noLevel shown)

/-- The entry of a mapping that counts as empty when it is absent, or a default. -/
def entryOr (v : Value) (key : String) (fallback : Value) : Except AccessError Value :=
  if v.isBlankValue then .ok fallback
  else match v with
    | .map entries => .ok ((Entries.get? entries (.str key)).getD fallback)
    | _ => .error (.noOperation v "get")

/-- The value that settings have for the level. -/
def levelIn (config : Value) : Except AccessError Value := do
  entryOr (← entryOr config "logging" .null) "level" (.str "WARNING")

/-- The name that a value is read as: its text in upper case. -/
def levelName (v : Value) : String :=
  String.ofList (Text.upper v.plain.toList)

/-- The name of the level in settings. A value without a text names none. -/
def levelNameIn (config : Value) : Except LevelError String := do
  let level ← (levelIn config).mapError .access
  if level.isWritable then return levelName level else throw .integerLength

/-- The level that a value asks for by name at run time. -/
def runtimeLevel (name : Value) : Except LevelError Int :=
  if name.isBlankValue then .error (.unnamed name)
  else match name with
    | .bytes _ => .error (.unnamed name)
    | _ =>
      match name.text? with
      | none => .error (.access (.noOperation name "upper"))
      | some text =>
        match levelOfName? (String.ofList (Text.upper text.toList)) with
        | some level => .ok level
        | none => .error (.unnamed name)

/-- A change of the log that may fail. What was changed before a failure stays changed. -/
abbrev Change := ExceptT LevelError (StateM Console)

namespace Change

variable {α : Type}

/-- What a change gives back in a state, and the state that it leaves. -/
def on (change : Change α) (c : Console) : Except LevelError α × Console :=
  StateT.run (ExceptT.run change) c

/-- Makes a handler, without a level of its own. -/
def makeHandler : Change Handler := do
  let c ← get
  set { c with levels := c.levels ++ [0] }
  return c.levels.length

/-- Attaches a handler to the log, once. -/
def attach (handler : Handler) : Change Unit :=
  modify fun c =>
    { c with attached := if handler ∈ c.attached then c.attached else c.attached ++ [handler] }

/-- The installed handler. If there is none, one is made, installed and attached. -/
def install : Change Handler := do
  match (← get).installed with
  | some handler => return handler
  | none =>
    let handler ← makeHandler
    modify ({ · with installed := some handler })
    attach handler
    return handler

/-- Sets the level of the log itself. -/
def setRoot (asked : Named) : Change Unit := do
  let level ← asked.level?
  modify ({ · with root := level })

/-- Sets the level of a handler. -/
def setHandler (handler : Handler) (asked : Named) : Change Unit := do
  let level ← asked.level?
  modify fun c => { c with levels := c.levels.set handler level }

/-- Configures the log from settings and gives back the installed handler. A name that stands for
nothing asks for `WARNING`. -/
def configure (config : Value) : Change Handler := do
  let name ← levelNameIn config
  let asked := (named? name).getD (.level warning)
  let handler ← install
  setRoot asked
  setHandler handler asked
  return handler

/-- Changes the level by name, also that of the installed handler if there is one. -/
def setLevel (name : Value) : Change Unit := do
  let level ← runtimeLevel name
  setRoot (.level level)
  if let some handler := (← get).installed then
    setHandler handler (.level level)

end Change

namespace Console

/-- The level of the installed handler. -/
def handler (c : Console) : Option Int :=
  c.installed.bind (c.levels[·]?)

/-- The log after a change, and why it failed. -/
def after {α : Type} (c : Console) (change : Change α) : Console × Option LevelError :=
  match change.on c with
  | (.ok _, c) => (c, none)
  | (.error cause, c) => (c, some cause)

/-- Configures the log from settings: the log afterwards, and why no level was set. -/
def configure (c : Console) (config : Value) : Console × Option LevelError :=
  c.after (Change.configure config)

/-- Changes the level by name: the log afterwards, and why it was refused. -/
def setLevelByName (c : Console) (name : Value) : Console × Option LevelError :=
  c.after (Change.setLevel name)

/-- Whether the log passes a record on to its handlers. Records at level zero or below never are. -/
def passes (c : Console) (r : Record) : Bool :=
  decide (0 < r.level) && decide (c.root ≤ r.level)

/-- Whether a handler writes the records of a level. -/
def accepts (c : Console) (level : Int) (handler : Handler) : Bool :=
  match c.levels[handler]? with
  | some least => decide (least ≤ level)
  | none => false

/-- The line of a record, given the text of its time. The log itself is named `root`. -/
def line (time : String) (r : Record) : String :=
  let logger := if r.logger = "" then "root" else r.logger
  s!"{time} {levelText r.level} {logger}: {r.message}\n"

/-- What the handlers write for a record, given the text of its time. -/
def writtenFor (c : Console) (time : String) (r : Record) : List String :=
  if c.passes r then (c.attached.filter (c.accepts r.level)).map fun _ => line time r else []

/-- What the handlers write for records, given the text of their time. -/
def written (c : Console) (time : String) (records : List Record) : String :=
  String.join (records.flatMap (c.writtenFor time))

end Console
end SqlPrep.Log
