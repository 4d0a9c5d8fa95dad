import SqlPrep.Calendar
import SqlPrep.Choice
import SqlPrep.Number.Binary64

/-!
# Dynamic values

The values that settings are made of. A mapping is a list of entries in the order in which their
keys were first assigned; assigning an existing key keeps its place and its first spelling. Keys are
compared by `Value.sameKey`: numbers by their numeric value across kinds (`1`, `1.0` and `true` are
one key), texts by their characters, tuples part by part, and a choice counts as its keyword.
-/

namespace SqlPrep

open Number

/-- A value of the settings, or of the document that they were read from. -/
inductive Value where
  | null
  | bool (value : Bool)
  | int (value : Int)
  | float (value : Binary64)
  | str (value : String)
  | choice (value : Choice)
  | list (items : List Value)
  | map (entries : List (Value × Value))
  | day (value : Day)
  | moment (value : Moment)
  | bytes (value : List UInt8)
  | set (items : List Value)
  | tuple (items : List Value)
  deriving Inhabited

/-- The entries of a mapping. -/
abbrev Entries := List (Value × Value)

namespace Value

/-- The integer that a value is as a number, for values other than doubles. -/
def toInt? : Value → Option Int
  | .bool b => some (if b then 1 else 0)
  | .int n => some n
  | _ => none

/-- The text of a value that counts as one: a text, or a choice by its keyword. -/
def text? : Value → Option String
  | .str s => some s
  | .choice c => some c.keyword
  | _ => none

mutual

/-- Whether two values are the same key of a mapping. -/
def sameKey (a b : Value) : Bool :=
  match a, b with
  | .null, .null => true
  | .day d, .day e => d == e
  | .moment m, .moment n => m.same n
  | .bytes x, .bytes y => x == y
  | .tuple xs, .tuple ys => sameKeys xs ys
  | .float x, .float y => x.sameKey y
  | .float x, v | v, .float x =>
    match v.toInt? with
    | some n => x.equalsInt n
    | none => false
  | v, w =>
    match v.toInt?, w.toInt?, v.text?, w.text? with
    | some m, some n, _, _ => m == n
    | _, _, some s, some t => s == t
    | _, _, _, _ => false

/-- Whether the parts of two tuples are the same keys, one by one. -/
def sameKeys : List Value → List Value → Bool
  | [], [] => true
  | a :: as, b :: bs => a.sameKey b && sameKeys as bs
  | _, _ => false

end

mutual

/-- Whether a value can be a key. A tuple can if all its parts can. -/
def isHashable : Value → Bool
  | .list _ | .map _ | .set _ => false
  | .tuple items => allHashable items
  | _ => true

/-- Whether all of some values can be keys. -/
def allHashable : List Value → Bool
  | [] => true
  | v :: rest => v.isHashable && allHashable rest

end

/-- Whether a value counts as absent where a default stands in for it. -/
def isBlankValue : Value → Bool
  | .null => true
  | .bool b => !b
  | .int n => n == 0
  | .float x => x.isZero
  | .str s => s.isEmpty
  | .list items | .set items | .tuple items => items.isEmpty
  | .map entries => entries.isEmpty
  | .bytes b => b.isEmpty
  | .choice _ | .day _ | .moment _ => false

/-- The name of the kind of a value in messages. -/
def kindName : Value → String
  | .null => "NoneType"
  | .bool _ => "bool"
  | .int _ => "int"
  | .float _ => "float"
  | .str _ => "str"
  | .choice c => c.kindName
  | .list _ => "list"
  | .map _ => "dict"
  | .day _ => "date"
  | .moment _ => "datetime"
  | .bytes _ => "bytes"
  | .set _ => "set"
  | .tuple _ => "tuple"

end Value

namespace Entries

/-- The value under a key. -/
def get? : Entries → Value → Option Value
  | [], _ => none
  | (k, v) :: rest, key => if k.sameKey key then some v else get? rest key

/-- The entries with a key assigned: in place if it is there, at the end otherwise. -/
def put : Entries → Value → Value → Entries
  | [], key, value => [(key, value)]
  | (k, v) :: rest, key, value =>
    if k.sameKey key then (k, value) :: rest else (k, v) :: put rest key value

/-- The keys, in order. -/
def keys (entries : Entries) : List Value :=
  entries.map Prod.fst

end Entries
end SqlPrep
