import SqlPrep.Yaml.Node.OfValue
import SqlPrep.Yaml.Page

/-!
# Writing nodes

The text of a document: collections as blocks with an indentation of two, empty ones in brackets. A
node that occurs several times gets an anchor where it is first written, and an alias afterwards;
anchors are numbered in the order in which nodes are found to recur.
-/

namespace SqlPrep.Yaml

/-! ## Anchors -/

/-- The identities met in a document, and those met again, each in the order of being met. -/
structure Recurrence where
  met : List Nat := []
  recurring : List Nat := []

namespace Recurrence

/-- Takes down an identity: whether it is new, and what has been met then. -/
def meet (r : Recurrence) (identity : Option Nat) : Bool × Recurrence :=
  match identity with
  | none => (true, r)
  | some i =>
    if r.met.contains i then
      (false, if r.recurring.contains i then r else { r with recurring := r.recurring ++ [i] })
    else (true, { r with met := r.met ++ [i] })

mutual

/-- Takes down a node and, if it is new, the nodes inside it. -/
def node (r : Recurrence) : Node → Recurrence
  | .scalar i _ _ => (r.meet i).2
  | .sequence i _ items =>
    let (new, r) := r.meet i
    if new then nodes r items else r
  | .mapping i _ entries =>
    let (new, r) := r.meet i
    if new then pairs r entries else r

/-- Takes down nodes. -/
def nodes (r : Recurrence) : List Node → Recurrence
  | [] => r
  | n :: rest => nodes (node r n) rest

/-- Takes down the keys and values of entries. -/
def pairs (r : Recurrence) : List (Node × Node) → Recurrence
  | [] => r
  | (k, v) :: rest => pairs (node (node r k) v) rest

end

/-- The name of the anchor of a node, if it recurs. -/
def anchor? (r : Recurrence) (identity : Option Nat) : Option (List Char) := do
  let place ← r.recurring.idxOf? (← identity)
  return "id".toList ++ Text.paddedDigits 10 3 (place + 1)

end Recurrence

/-! ## The pen -/

/-- Where a node is written. -/
inductive Spot where
  | root
  | item
  | simpleKey
  | wideKey
  | value
  deriving DecidableEq

/-- A page with the identities of the nodes that are already on it. -/
structure Pen where
  page : Page := {}
  done : List Nat := []

namespace Pen

/-- Writes an indicator on the page. -/
def on (pen : Pen) (f : Page → Page) : Pen :=
  { pen with page := f pen.page }

/-- The column of a block inside an indentation. -/
def blockColumn (indent : Option Nat) : Nat :=
  match indent with
  | none => 0
  | some n => n + 2

/-- The column at which the lines of a scalar go on. -/
def scalarColumn (indent : Option Nat) : Nat :=
  indent.getD 0 + 2

/-- The anchor of a node, written in front of it. -/
def anchor (pen : Pen) (name : Option (List Char)) (identity : Option Nat) : Pen :=
  match name with
  | none => pen
  | some name => { pen.on (·.indicator ('&' :: name) true) with done := identity.toList ++ pen.done }

/-- The tag of a collection, written in front of it unless it is the usual one. -/
def collectionTag (pen : Pen) (tag usual : Tag) : Pen :=
  if tag = usual then pen else pen.on (·.indicator tag.shortForm true)

/-- Writes a scalar. -/
def scalar (pen : Pen) (spot : Spot) (indent : Option Nat) (tag : Tag) (text : List Char) : Pen :=
  let simple := spot == .simpleKey
  let style := Style.of tag text simple
  let pen := if style.showsTag tag text then pen.on (·.indicator tag.shortForm true) else pen
  pen.on (·.scalar style text (scalarColumn indent) (!simple) (spot == .root))

/-- The most characters that a key on one line with its value has, with its anchor and tag. -/
def simpleKeyLimit : Nat := 128

/-- Whether a key can stand on one line with its value. -/
def isSimpleKey (pen : Pen) (r : Recurrence) (key : Node) : Bool :=
  let anchor := ((r.anchor? key.identity).getD []).length
  if key.identity.any pen.done.contains then decide (anchor < simpleKeyLimit)
  else
    let marks := anchor + key.tag.shortForm.length
    match key with
    | .scalar _ _ text =>
      !text.isEmpty && !(Analysis.ofText text).multiline &&
        decide (marks + text.length < simpleKeyLimit)
    | .sequence _ _ items => items.isEmpty && decide (marks < simpleKeyLimit)
    | .mapping _ _ entries => entries.isEmpty && decide (marks < simpleKeyLimit)

mutual

/-- Writes a node. A sequence that is the value of a key in the same line is not indented. -/
def node (pen : Pen) (r : Recurrence) (spot : Spot) (indent : Option Nat) : Node → Pen
  | .scalar i tag text =>
    if i.any pen.done.contains then pen.on (·.indicator ('*' :: (r.anchor? i).getD []) true)
    else (pen.anchor (r.anchor? i) i).scalar spot indent tag text
  | .sequence i tag items =>
    if i.any pen.done.contains then pen.on (·.indicator ('*' :: (r.anchor? i).getD []) true)
    else
      let pen := (pen.anchor (r.anchor? i) i).collectionTag tag .seq
      if items.isEmpty then pen.on (·.indicator ['[', ']'] true)
      else
        let loose := (spot == .value || spot == .simpleKey || spot == .wideKey) && !pen.page.indented
        sequenceItems pen r (if loose then indent.getD 0 else blockColumn indent) items
  | .mapping i tag entries =>
    if i.any pen.done.contains then pen.on (·.indicator ('*' :: (r.anchor? i).getD []) true)
    else
      let pen := (pen.anchor (r.anchor? i) i).collectionTag tag .map
      if entries.isEmpty then pen.on (·.indicator ['\x7b', '\x7d'] true)
      else mappingEntries pen r (blockColumn indent) entries

/-- Writes the members of a sequence at a column. -/
def sequenceItems (pen : Pen) (r : Recurrence) (column : Nat) : List Node → Pen
  | [] => pen
  | item :: rest =>
    let pen := pen.on fun p => (p.indent column).indentingIndicator ['-']
    sequenceItems (node pen r .item (some column) item) r column rest

/-- Writes the entries of a mapping at a column. -/
def mappingEntries (pen : Pen) (r : Recurrence) (column : Nat) : List (Node × Node) → Pen
  | [] => pen
  | (key, value) :: rest =>
    let pen := pen.on (·.indent column)
    let pen :=
      if pen.isSimpleKey r key then
        (node pen r .simpleKey (some column) key).on (·.indicator [':'] false)
      else
        (node (pen.on (·.indentingIndicator ['?'])) r .wideKey (some column) key).on fun p =>
          (p.indent column).indentingIndicator [':']
    mappingEntries (node pen r .value (some column) value) r column rest

end

/-- The page of a document, with an end mark if its text could go on. -/
def document (root : Node) : Page :=
  let r := Recurrence.node {} root
  let page := (node {} r .root none root).page.indent 0
  if page.openEnded then (page.indicator "...".toList true).indent 0 else page

end Pen

/-- The text of the document of a node. -/
def Node.render (root : Node) : List Char :=
  (Pen.document root).text.reverse

/-- The text of the document that holds a value. -/
def Document.render (d : Document) : Except Fault (List Char) :=
  (Node.ofValue d.sharing d.value).map Node.render

end SqlPrep.Yaml
