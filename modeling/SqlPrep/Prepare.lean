import SqlPrep.Comment.Removal
import SqlPrep.Log.Record
import SqlPrep.Settings.Choices
import SqlPrep.Settings.Validation
import SqlPrep.Spacing.Collapse

/-!
# Preparing a query

Applies the comment removal that the settings ask for, and for logs also folds blank runs. Comments
go first: the spacing scan knows neither comments nor dollar quotes and would fold a line comment
into the next line.
-/

namespace SqlPrep

/-- A text with the records reported while it was made. -/
structure Reported where
  text : String
  records : List Log.Record
  deriving DecidableEq, Inhabited

/-- Removes comments, and reports a text that ends inside a quote or comment. -/
def Comment.removeReported (strategy : Strategy) (sql : String) : Reported :=
  let removed := Comment.remove strategy sql.toList
  { text := String.ofList removed.text
    records := removed.unterminated.toList.map fun construct =>
      ⟨Log.debug, "sql_query.sanitize.comments",
        s!"SQL ended inside an unterminated {construct.name}"⟩ }

namespace Prepare

/-- The report that comments were removed. -/
def removalRecord (strategy : Strategy) (forLogs : Bool) : Log.Record :=
  let flag := if forLogs then "True" else "False"
  ⟨Log.debug, "sql_query.prepare",
    s!"Removed comments (strategy={strategy.keyword}, for_logs={flag})"⟩

/-- Removes comments for one form of a query, and reports that it was done. -/
def withoutComments (strategy : Strategy) (forLogs : Bool) (sql : String) : Reported :=
  let removed := Comment.removeReported strategy sql
  { removed with records := removed.records ++ [removalRecord strategy forLogs] }

/-- The form of a query for running or for logs, by settings that are already valid. -/
def apply (config : Value) (forLogs : Bool) (sql : String) : Except ChoiceError Reported := do
  let prepared ←
    if ← Settings.removesComments config forLogs then
      pure (withoutComments (← Settings.strategy config) forLogs sql)
    else pure ⟨sql, []⟩
  return if forLogs then { prepared with text := Spacing.normalize prepared.text } else prepared

end Prepare

/-- The form of a query for running or for logs, by settings as they were given. -/
def prepare (raw : Value) (forLogs : Bool) (sql : String) : Except ChoiceError Reported := do
  let entries ← (Settings.entriesOf raw).mapError .access
  Prepare.apply (.map (Settings.build entries).config) forLogs sql

/-- Both forms of a query. -/
structure Variants where
  sql : Reported
  forLogs : Reported

/-- Both forms of a query, the one for running first. -/
def prepareVariants (raw : Value) (sql : String) : Except ChoiceError Variants := do
  let plain ← prepare raw false sql
  return ⟨plain, ← prepare raw true sql⟩

end SqlPrep
