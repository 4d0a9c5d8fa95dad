import SqlPrep.Text.Blank
import SqlPrep.Text.Case

/-!
# Closed choices of the settings

Which comments are removed (`Strategy`) and from which form of a query (`Source`). A choice is
named by a keyword, in any case and with blank characters around it.
-/

namespace SqlPrep

/-- Which comments are removed. -/
inductive Strategy where
  | none
  | oneline
  | multiline
  | all
  deriving DecidableEq, Inhabited

/-- Which form of a query gets its comments removed. -/
inductive Source where
  | none
  | preparedForLogs
  | all
  deriving DecidableEq, Inhabited

/-- A text in the form in which keywords are compared: trimmed and in lower case. -/
def keywordForm (s : String) : String :=
  String.ofList (Text.lower (Text.trim s.toList))

/-- The upper-case name of a keyword. -/
def keywordName (keyword : String) : String :=
  String.ofList (keyword.toList.map Char.toUpper)

namespace Strategy

/-- All strategies, in the order in which messages list them. -/
def values : List Strategy := [none, oneline, multiline, all]

/-- The keyword of a strategy. -/
def keyword : Strategy → String
  | none => "none"
  | oneline => "oneline"
  | multiline => "multiline"
  | all => "all"

/-- Whether comments from `--` to the end of the line are removed. -/
def removesOneline : Strategy → Bool
  | oneline | all => true
  | none | multiline => false

/-- Whether comments between `/*` and `*/` are removed. -/
def removesMultiline : Strategy → Bool
  | multiline | all => true
  | none | oneline => false

/-- The strategy that a text names. -/
def ofText? (s : String) : Option Strategy :=
  values.find? fun v => v.keyword == keywordForm s

end Strategy

namespace Source

/-- All sources, in the order in which messages list them. -/
def values : List Source := [none, preparedForLogs, all]

/-- The keyword of a source. -/
def keyword : Source → String
  | none => "none"
  | preparedForLogs => "prepared_for_logs"
  | all => "all"

/-- The source that a text names. -/
def ofText? (s : String) : Option Source :=
  values.find? fun v => v.keyword == keywordForm s

/-- Whether comments are removed from the form of a query that is for logs or not for logs. -/
def applies (source : Source) (forLogs : Bool) : Bool :=
  match source with
  | none => false
  | preparedForLogs => forLogs
  | all => true

end Source

/-- A choice that stands as a value in its own right instead of its keyword. -/
inductive Choice where
  | strategy (value : Strategy)
  | source (value : Source)
  deriving DecidableEq, Inhabited

namespace Choice

/-- The keyword of the choice. -/
def keyword : Choice → String
  | strategy v => v.keyword
  | source v => v.keyword

/-- The name of the kind of choice. -/
def kindName : Choice → String
  | strategy _ => "CommentStrategy"
  | source _ => "CommentSource"

/-- The kind and the name of the choice. -/
def label (c : Choice) : String :=
  c.kindName ++ "." ++ keywordName c.keyword

end Choice
end SqlPrep
