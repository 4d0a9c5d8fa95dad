import SqlPrep.Settings.Overlay

/-!
# Overlaying in place

The overlay as it is carried out on mappings that are changed where they stand. A mapping is an
object at a place of a heap, and a mapping inside another one is there by its place, so that one
object may stand in several others. The base is copied together with all mappings inside it, and the
entries of the overlay are assigned in the copy; a mapping of the overlay that is laid over no other
is put there itself. All other values stand in a mapping as they are.
-/

namespace SqlPrep

/-- What stands under a key of an object: a value that is no mapping, or the object at a place. -/
inductive Slot where
  | plain (value : Value)
  | object (place : Nat)
  deriving Inhabited

/-- The slots of an object, in the order in which their keys were first assigned. -/
abbrev Slots := List (Value × Slot)

namespace Slots

/-- The slot under a key. -/
def get? : Slots → Value → Option Slot
  | [], _ => none
  | (k, s) :: rest, key => if k.sameKey key then some s else get? rest key

/-- The slots with a key assigned: in place if it is there, at the end otherwise. -/
def put : Slots → Value → Slot → Slots
  | [], key, slot => [(key, slot)]
  | (k, s) :: rest, key, slot =>
    if k.sameKey key then (k, slot) :: rest else (k, s) :: put rest key slot

end Slots

/-- Objects by their places. -/
abbrev Heap := List Slots

namespace Heap

/-! ## Reading -/

/-- The value that a slot stands for, if objects can be read. -/
def readSlot (readObject : Nat → Option Entries) : Slot → Option Value
  | .plain (.map _) => none
  | .plain v => some v
  | .object place => (readObject place).map .map

/-- The entries that slots stand for, if objects can be read. -/
def readSlots (readObject : Nat → Option Entries) : Slots → Option Entries
  | [] => some []
  | (key, slot) :: rest => do
    let v ← readSlot readObject slot
    let entries ← readSlots readObject rest
    return (key, v) :: entries

/-- The entries of an object, if it is not nested deeper than to a depth. -/
def readFrom (look : Nat → Option Slots) : Nat → Nat → Option Entries
  | 0, _ => none
  | depth + 1, place => (look place).bind (readSlots (readFrom look depth))

/-- The entries of the object at a place. -/
def read (h : Heap) (depth place : Nat) : Option Entries :=
  readFrom (h[·]?) depth place

/-! ## Copying -/

/-- A copy of a slot, if objects can be copied. -/
def copySlot (copyObject : Heap → Nat → Option (Heap × Nat)) (h : Heap) :
    Slot → Option (Heap × Slot)
  | .plain v => some (h, .plain v)
  | .object place => (copyObject h place).map fun (h, copied) => (h, .object copied)

/-- Copies of slots, one after the other. -/
def copySlots (copyObject : Heap → Nat → Option (Heap × Nat)) :
    Heap → Slots → Option (Heap × Slots)
  | h, [] => some (h, [])
  | h, (key, slot) :: rest => do
    let (h, slot) ← copySlot copyObject h slot
    let (h, rest) ← copySlots copyObject h rest
    return (h, (key, slot) :: rest)

/-- A copy of an object at a new place, with copies of all objects inside it. -/
def copy : Nat → Heap → Nat → Option (Heap × Nat)
  | 0, _, _ => none
  | depth + 1, h, place => do
    let slots ← h[place]?
    let (h, copied) ← copySlots (copy depth) h slots
    return (h ++ [copied], h.length)

/-! ## Overlaying -/

/-- What comes to stand in place of a slot, if an object can be laid over another. -/
def laySlot (lay : Heap → Nat → Nat → Option (Heap × Nat)) (h : Heap) (old : Option Slot)
    (slot : Slot) : Option (Heap × Slot) :=
  match slot, old with
  | .object top, some (.object base) => (lay h base top).map fun (h, laid) => (h, .object laid)
  | slot, _ => some (h, slot)

/-- Assigns slots in the object at a place, one after the other. -/
def assignAll (lay : Heap → Nat → Nat → Option (Heap × Nat)) (place : Nat) :
    Heap → Slots → Option Heap
  | h, [] => some h
  | h, (key, slot) :: rest => do
    let here ← h[place]?
    let (h, new) ← laySlot lay h (here.get? key) slot
    assignAll lay place (h.modify place (·.put key new)) rest

/-- Lays the object at one place over a copy of the object at another. -/
def overlay : Nat → Heap → Nat → Nat → Option (Heap × Nat)
  | 0, _, _, _ => none
  | depth + 1, h, base, top => do
    let (h, result) ← copy (depth + 1) h base
    let slots ← h[top]?
    let h ← assignAll (overlay depth) result h slots
    return (h, result)

end Heap
end SqlPrep
