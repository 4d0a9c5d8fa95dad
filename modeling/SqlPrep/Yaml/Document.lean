import SqlPrep.Yaml.Library
import SqlPrep.Yaml.Node.Parse
import SqlPrep.Yaml.ScalarValue

/-!
# Documents

The value that the node of a document stands for, together with which parts of it are one and the
same. Collections are built level by level, so of two faults the one nearer to the root is reported,
and of two at the same depth the first.
-/

namespace SqlPrep.Yaml

/-- A part of a document, or the depth and cause of a failure to build it. -/
abbrev Build (α : Type) := Except (Nat × ReadError) α

namespace Build

/-- Two parts. If both fail, the failure nearer to the root counts, or else the first. -/
def both (a : Build α) (b : Build β) : Build (α × β) :=
  match a, b with
  | .ok x, .ok y => .ok (x, y)
  | .error e, .ok _ => .error e
  | .ok _, .error e => .error e
  | .error d, .error e => .error (if e.1 < d.1 then e else d)

/-- A failure at a depth. -/
def fail (depth : Nat) (fault : Fault) : Build α :=
  .error (depth, .malformed fault)

end Build

/-! ## Merged mappings -/

mutual

/-- The entries of a mapping without its merge keys: those merged in, and its own. -/
def ownEntries : List (Node × Node) → Except Fault (List (Node × Node) × List (Node × Node))
  | [] => .ok ([], [])
  | (key, value) :: rest => do
    if key.tag = .merge then
      let merged ← mergedEntries value
      let (others, own) ← ownEntries rest
      return (merged ++ others, own)
    let key := if key.tag = .value then key.withTag .str else key
    let (others, own) ← ownEntries rest
    return (others, (key, value) :: own)

/-- The entries that the value of a merge key stands for: those of a mapping, or those of several of
which the first counts most. -/
def mergedEntries : Node → Except Fault (List (Node × Node))
  | .mapping _ _ entries => (ownEntries entries).map fun (merged, own) => merged ++ own
  | .sequence _ _ items => (mergedItems items).map fun all => all.reverse.flatten
  | .scalar _ _ _ => .error .mergedNode

/-- The entries of each of several mappings. -/
def mergedItems : List Node → Except Fault (List (List (Node × Node)))
  | [] => .ok []
  | .mapping _ _ entries :: rest => do
    let (merged, own) ← ownEntries entries
    return (merged ++ own) :: (← mergedItems rest)
  | .scalar _ _ _ :: _ | .sequence _ _ _ :: _ => .error .mergedNode

end

/-! ## Building values -/

mutual

/-- The text of a scalar. A mapping stands for the scalar under its key `=`. -/
def scalarText : Node → Except ReadError (List Char)
  | .scalar _ _ text => .ok text
  | .mapping _ _ entries => scalarEntry entries
  | .sequence _ _ _ => .error (.malformed .nodeKind)

/-- The text of the scalar under the key `=`. -/
def scalarEntry : List (Node × Node) → Except ReadError (List Char)
  | [] => .error (.malformed .nodeKind)
  | (key, value) :: rest => if key.tag = .value then scalarText value else scalarEntry rest

end

/-- The value of a scalar node. -/
def scalarValue (tag : Tag) (text : List Char) : Except ReadError Value :=
  match tag with
  | .null => .ok .null
  | .bool => ScalarValue.truth text
  | .int => ScalarValue.integer text
  | .float => ScalarValue.double text
  | .timestamp => ScalarValue.time text
  | .binary => ScalarValue.binary text
  | .str => .ok (.str (String.ofList text))
  | _ => .error (.malformed .unknownTag)

/-- The value of a node that stands for one scalar. A day or moment is read off the node itself, which
then cannot be a mapping. -/
def nodeValue (node : Node) : Except ReadError Value := do
  let text ← scalarText node
  match node.tag, node with
  | .timestamp, .mapping _ _ _ => .error .timestampNode
  | tag, _ => scalarValue tag text

/-- Whether nodes with a tag stand for collections, which cannot be keys. -/
def Tag.isCollection : Tag → Bool
  | .seq | .map | .set | .omap | .pairs => true
  | _ => false

/-- Assigns a key in place if it is there, at the end otherwise. -/
def putKey (entries : List (Document × Document)) (key value : Document) :
    List (Document × Document) :=
  match entries with
  | [] => [(key, value)]
  | (k, v) :: rest =>
    if sameNodeKey k.value key.value then (k, value) :: rest else (k, v) :: putKey rest key value

/-- The mapping of entries in the order in which they are assigned. -/
def mappingOf (entries : List (Document × Document)) : List (Document × Document) :=
  entries.foldl (fun m e => putKey m e.1 e.2) []

/-- The identities of the keys of entries. -/
def keyIdentities (entries : List (Document × Document)) : List (Value × Option Nat) :=
  entries.map fun e => (e.1.value, e.1.sharing.identity)

/-- A mapping. -/
def mappingDocument (identity : Option Nat) (entries : List (Document × Document)) : Document :=
  let m := mappingOf entries
  ⟨.map (m.map fun e => (e.1.value, e.2.value)),
    .of identity (keyIdentities m) (m.map fun e => (e.1.value, e.2.sharing))⟩

/-- A set of the keys of a mapping. -/
def setDocument (identity : Option Nat) (entries : List (Document × Document)) : Document :=
  let m := mappingOf entries
  ⟨.set (m.map (·.1.value)), .of identity (keyIdentities m) []⟩

/-- A list. -/
def listDocument (identity : Option Nat) (items : List Document) : Document :=
  ⟨.list (items.map (·.value)),
    .of identity [] (items.zipIdx.map fun d => (.int d.2, d.1.sharing))⟩

/-- A pair of a key and a value. -/
def pairDocument (key value : Document) : Document :=
  ⟨.tuple [key.value, value.value], .of none [] [(.int 0, key.sharing), (.int 1, value.sharing)]⟩

/-- A node that builds its collection out of entries, after merge keys have been resolved. -/
def withEntries (depth : Nat) (node : Node) : Build (List (Node × Node)) :=
  match node with
  | .mapping _ _ entries =>
    match ownEntries entries with
    | .ok (merged, own) => .ok (merged ++ own)
    | .error fault => Build.fail depth fault
  | _ => Build.fail depth .nodeKind

mutual

/-- The document of a node at a depth. -/
def buildNode (depth : Nat) (node : Node) : Nat → Build Document
  | 0 => Build.fail depth .tooDeep
  | fuel + 1 =>
    match node.tag with
    | .map => do
      let entries ← withEntries (depth + 1) node
      return mappingDocument node.identity (← buildEntries (depth + 1) entries fuel)
    | .set => do
      let entries ← withEntries (depth + 1) node
      return setDocument node.identity (← buildEntries (depth + 1) entries fuel)
    | .seq =>
      match node with
      | .sequence _ _ items => do
        return listDocument node.identity (← buildItems (depth + 1) items fuel)
      | _ => Build.fail (depth + 1) .nodeKind
    | .omap | .pairs =>
      match node with
      | .sequence _ _ items => do
        return listDocument node.identity (← buildPairs (depth + 1) items fuel)
      | _ => Build.fail (depth + 1) .nodeKind
    | .merge | .value | .other _ => Build.fail depth .unknownTag
    | _ =>
      match nodeValue node with
      | .ok v => .ok ⟨v, .leaf node.identity⟩
      | .error e => .error (depth, e)

/-- The documents of nodes. -/
def buildItems (depth : Nat) (items : List Node) : Nat → Build (List Document)
  | 0 => Build.fail depth .tooDeep
  | fuel + 1 =>
    match items with
    | [] => .ok []
    | item :: rest =>
      (Build.both (buildNode depth item fuel) (buildItems depth rest fuel)).map
        fun (d, ds) => d :: ds

/-- The keys and values of entries. A collection cannot be a key. -/
def buildEntries (depth : Nat) (entries : List (Node × Node)) :
    Nat → Build (List (Document × Document))
  | 0 => Build.fail depth .tooDeep
  | fuel + 1 =>
    match entries with
    | [] => .ok []
    | (key, value) :: rest =>
      let keyDocument :=
        if key.tag.isCollection then Build.fail depth .unhashableKey
        else buildNode depth key fuel
      let entry := Build.both keyDocument (buildNode depth value fuel)
      (Build.both entry (buildEntries depth rest fuel)).map
        fun ((k, v), es) => (k, v) :: es

/-- The pairs that mappings of one entry stand for. -/
def buildPairs (depth : Nat) (items : List Node) : Nat → Build (List Document)
  | 0 => Build.fail depth .tooDeep
  | fuel + 1 =>
    match items with
    | [] => .ok []
    | .mapping _ _ [(key, value)] :: rest =>
      let pair := Build.both (buildNode depth key fuel) (buildNode depth value fuel)
      (Build.both pair (buildPairs depth rest fuel)).map
        fun ((k, v), ds) => pairDocument k v :: ds
    | _ => Build.fail depth .nodeKind

end

mutual

/-- A bound on how deep building goes into a node. -/
def Node.weight : Node → Nat
  | .scalar _ _ _ => 1
  | .sequence _ _ items => Node.weightAll items + 2
  | .mapping _ _ entries => Node.weightEntries entries + 2

/-- A bound on how deep building goes into nodes. -/
def Node.weightAll : List Node → Nat
  | [] => 1
  | n :: rest => n.weight + Node.weightAll rest + 2

/-- A bound on how deep building goes into entries. -/
def Node.weightEntries : List (Node × Node) → Nat
  | [] => 1
  | (k, v) :: rest => k.weight + v.weight + Node.weightEntries rest + 2

end

/-- The document of a node. -/
def Document.ofNode (node : Node) : Except ReadError Document :=
  (buildNode 0 node (2 * node.weight + 4)).mapError Prod.snd

/-- The document that a text holds. A text without a document holds the absent value. -/
def Document.ofText (text : List Char) : Except ReadError Document := do
  match ← Node.ofText text with
  | some node => Document.ofNode node
  | .none => return ⟨.null, .none⟩

end SqlPrep.Yaml
