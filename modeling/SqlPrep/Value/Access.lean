import SqlPrep.Value.Display

/-!
# Access inside values

Reading and assigning a member of a mapping, a list or a text, and why that is refused. Positions
in lists and texts count from the end when negative.
-/

namespace SqlPrep

/-- Why a member of a value cannot be read or assigned. -/
inductive AccessError where
  | missingKey (key : Value)
  | unhashable (key : Value)
  | notSubscriptable (container : Value)
  | notAssignable (container : Value)
  | badListPosition (position : Value)
  | badTextPosition (position : Value)
  | listPosition
  | listAssignmentPosition
  | textPosition
  | noOperation (value : Value) (operation : String)

namespace AccessError

/-- The wording of each cause. -/
def message : AccessError → String
  | missingKey key => key.shown
  | unhashable key => s!"unhashable type: '{key.kindName}'"
  | notSubscriptable v => s!"'{v.kindName}' object is not subscriptable"
  | notAssignable v => s!"'{v.kindName}' object does not support item assignment"
  | badListPosition p => s!"list indices must be integers or slices, not {p.kindName}"
  | badTextPosition p => s!"string indices must be integers, not '{p.kindName}'"
  | listPosition => "list index out of range"
  | listAssignmentPosition => "list assignment index out of range"
  | textPosition => "string index out of range"
  | noOperation v operation => s!"'{v.kindName}' object has no attribute '{operation}'"

end AccessError

/-- The position in a sequence of a length that a signed position stands for. -/
def position? (length : Nat) (i : Int) : Option Nat :=
  let n := if i < 0 then i + length else i
  if n < 0 ∨ (length : Int) ≤ n then none else some n.toNat

namespace Value

/-- The member of a value under a key or position. -/
def member (container key : Value) : Except AccessError Value :=
  match container with
  | .map entries =>
    if !key.isHashable then .error (.unhashable key)
    else match Entries.get? entries key with
      | some v => .ok v
      | none => .error (.missingKey key)
  | .list items =>
    match key.toInt? with
    | none => .error (.badListPosition key)
    | some i =>
      match (position? items.length i).bind (items[·]?) with
      | some v => .ok v
      | none => .error .listPosition
  | .str _ | .choice _ =>
    let cs := (container.text?.getD "").toList
    match key.toInt? with
    | none => .error (.badTextPosition key)
    | some i =>
      match (position? cs.length i).bind (cs[·]?) with
      | some c => .ok (.str (String.singleton c))
      | none => .error .textPosition
  | v => .error (.notSubscriptable v)

/-- The value with the member under a key or position replaced. -/
def assign (container key value : Value) : Except AccessError Value :=
  match container with
  | .map entries =>
    if key.isHashable then .ok (.map (Entries.put entries key value))
    else .error (.unhashable key)
  | .list items =>
    match key.toInt? with
    | none => .error (.badListPosition key)
    | some i =>
      match position? items.length i with
      | some n => .ok (.list (items.set n value))
      | none => .error .listAssignmentPosition
  | v => .error (.notAssignable v)

/-- The value with the member at the end of a path replaced. -/
def assignPath (container : Value) : List Value → Value → Except AccessError Value
  | [], _ => .error .listPosition
  | [key], value => container.assign key value
  | key :: rest, value => do
    let inner ← container.member key
    let inner ← inner.assignPath rest value
    container.assign key inner

end Value
end SqlPrep
