import SqlPrep.Value.Basic

/-!
# The default settings

Every setting that the program reads, in the two sections `sql` and `logging`, with its value when
nothing else is said.
-/

namespace SqlPrep.Settings

/-- The names of the sections and settings. -/
def sqlSection : String := "sql"
@[inherit_doc sqlSection] def loggingSection : String := "logging"
@[inherit_doc sqlSection] def pathKey : String := "path"
@[inherit_doc sqlSection] def strategyKey : String := "remove_comments"
@[inherit_doc sqlSection] def sourceKey : String := "remove_comments_from"
@[inherit_doc sqlSection] def levelKey : String := "level"

/-- The section `sql` by default. -/
def defaultSql : Entries :=
  [(.str pathKey, .str "/app/sql_queries"),
    (.str strategyKey, .str Strategy.all.keyword),
    (.str sourceKey, .str Source.all.keyword)]

/-- The section `logging` by default. -/
def defaultLogging : Entries :=
  [(.str levelKey, .str "WARNING")]

/-- All settings by default. -/
def default : Entries :=
  [(.str sqlSection, .map defaultSql), (.str loggingSection, .map defaultLogging)]

end SqlPrep.Settings
