import SqlPrep.Number.Shortest
import SqlPrep.Text.Base64
import SqlPrep.Yaml.Document

/-!
# Nodes of values

The node that stands for a value. Lists, mappings, sets, days and moments keep their identity, so a
part that is shared is written once and referred to afterwards; all other values are written
wherever they stand. A choice that is not given by its keyword has no node.
-/

namespace SqlPrep.Yaml

/-- The text of a double: always with a point, and with words of its own for values that are not
finite. -/
def doubleText (x : Number.Binary64) : List Char :=
  match x with
  | .nan _ => ".nan".toList
  | .infinite s => (if s then "-.inf" else ".inf").toList
  | .finite _ _ _ =>
    let cs := x.text.toList
    if cs.contains '.' then cs
    else cs.flatMap fun c => if c = 'e' then ".0e".toList else [c]

namespace Node

mutual

/-- The node of a value. -/
def ofValue (sharing : Sharing) : Value → Except Fault Node
  | .null => .ok (.scalar none .null "null".toList)
  | .bool b => .ok (.scalar none .bool (if b then "true" else "false").toList)
  | .int n => .ok (.scalar none .int (toString n).toList)
  | .float x => .ok (.scalar none .float (doubleText x))
  | .str s => .ok (.scalar none .str s.toList)
  | .choice _ => .error .choiceValue
  | .list items | .tuple items =>
    (ofItems sharing 0 items).map (.sequence sharing.identity .seq)
  | .map entries => (ofEntries sharing entries).map (.mapping sharing.identity .map)
  | .day d => .ok (.scalar sharing.identity .timestamp d.text.toList)
  | .moment m => .ok (.scalar sharing.identity .timestamp (m.text ' ').toList)
  | .bytes b => .ok (.scalar none .binary (Text.Base64.encode b))
  | .set items => (ofMembers sharing items).map (.mapping sharing.identity .set)

/-- The nodes of the members of a list from a position on. -/
def ofItems (sharing : Sharing) (position : Nat) : List Value → Except Fault (List Node)
  | [] => .ok []
  | v :: rest => do
    let node ← ofValue (sharing.part (.int position)) v
    return node :: (← ofItems sharing (position + 1) rest)

/-- The nodes of the entries of a mapping. -/
def ofEntries (sharing : Sharing) : List (Value × Value) → Except Fault (List (Node × Node))
  | [] => .ok []
  | (k, v) :: rest => do
    let key ← ofValue (sharing.key k) k
    let value ← ofValue (sharing.part k) v
    return (key, value) :: (← ofEntries sharing rest)

/-- The nodes of the members of a set, each the key of an absent value. -/
def ofMembers (sharing : Sharing) : List Value → Except Fault (List (Node × Node))
  | [] => .ok []
  | v :: rest => do
    let key ← ofValue (sharing.key v) v
    return (key, .scalar none .null "null".toList) :: (← ofMembers sharing rest)

end

end Node
end SqlPrep.Yaml
