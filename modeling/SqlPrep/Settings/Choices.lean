import SqlPrep.Settings.Default
import SqlPrep.Value.Access

/-!
# Choices read from settings

The strategy and the source that settings ask for, read from settings that need not have been
validated. A value names a choice by its text; an absent value names `none`.
-/

namespace SqlPrep

/-- Why a choice cannot be read. -/
inductive ChoiceError where
  | unknownStrategy (value : Value)
  | unknownSource (value : Value)
  | access (cause : AccessError)

/-- The wording for a value that is no choice of a kind, with the keywords that would do. -/
def unknownMessage (kind : String) (keywords : List String) (v : Value) : String :=
  let choices := String.intercalate ", " keywords
  if v.isWritable then s!"Unknown comment {kind}: {v.shown} (expected one of {choices})"
  else Value.unwritableMessage

/-- The wording of each cause. -/
def ChoiceError.message : ChoiceError → String
  | .unknownStrategy v => unknownMessage "strategy" (Strategy.values.map Strategy.keyword) v
  | .unknownSource v => unknownMessage "source" (Source.values.map Source.keyword) v
  | .access cause => cause.message

/-- The strategy that a value is or names. -/
def Strategy.ofValue (v : Value) : Except ChoiceError Strategy :=
  match v with
  | .choice (.strategy s) => .ok s
  | _ =>
    match Strategy.ofText? v.plain with
    | .some s => .ok s
    | .none => .error (.unknownStrategy v)

/-- The source that a value is or names. -/
def Source.ofValue (v : Value) : Except ChoiceError Source :=
  match v with
  | .choice (.source s) => .ok s
  | _ =>
    match Source.ofText? v.plain with
    | .some s => .ok s
    | .none => .error (.unknownSource v)

namespace Settings

/-- The value of a setting in the section `sql`. -/
def sqlValue (config : Value) (key : String) : Except ChoiceError Value :=
  ((config.member (.str sqlSection)).bind fun sql => sql.member (.str key)).mapError .access

/-- The strategy that settings ask for. -/
def strategy (config : Value) : Except ChoiceError Strategy := do
  Strategy.ofValue (← sqlValue config strategyKey)

/-- The source that settings ask for. -/
def source (config : Value) : Except ChoiceError Source := do
  Source.ofValue (← sqlValue config sourceKey)

/-- Whether settings ask for comments to be removed, for logs or otherwise. -/
def removesComments (config : Value) (forLogs : Bool) : Except ChoiceError Bool := do
  return (← source config).applies forLogs

end Settings
end SqlPrep
