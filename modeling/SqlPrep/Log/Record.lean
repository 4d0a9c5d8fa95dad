/-!
# Log records

What the library reports while it works: a level, the logger that reports, and a message. Levels are
numbers, a few of which have names.
-/

namespace SqlPrep.Log

/-- A reported event. -/
structure Record where
  level : Int
  logger : String
  message : String
  deriving DecidableEq, Inhabited

/-- The level of reports about single steps. -/
def debug : Int := 10

/-- The level of reports about input that was replaced or ignored. -/
def warning : Int := 30

/-- The names of levels that have one. -/
def levelNames : List (Int × String) :=
  [(50, "CRITICAL"), (40, "ERROR"), (30, "WARNING"), (20, "INFO"), (10, "DEBUG"), (0, "NOTSET")]

/-- The text of a level in a log line. -/
def levelText (level : Int) : String :=
  match levelNames.lookup level with
  | some name => name
  | none => s!"Level {level}"

/-- The names that a level can be asked for by, two of them beside its own. -/
def namedLevels : List (String × Int) :=
  levelNames.map (fun e => (e.2, e.1)) ++ [("FATAL", 50), ("WARN", 30)]

/-- The level that a name in upper case stands for. -/
def levelOfName? (name : String) : Option Int :=
  namedLevels.lookup name

end SqlPrep.Log
