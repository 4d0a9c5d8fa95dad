import SqlPrep.Value.Basic

/-!
# The library that reads and writes documents

Settings are kept as YAML documents, which a library reads and writes. All that the program knows of
it is taken as a parameter: the value that a text is read as, the text that is written for a value,
and for either an exception, of which the program tells some families apart. What holds of loading
and saving is said for every library, or for one that reads back what it has written.
-/

namespace SqlPrep.Yaml

/-! ## Documents -/

/-- Whether two keys of a document are the same. In a document every `nan` is. -/
def sameNodeKey (a b : Value) : Bool :=
  match a, b with
  | .float (.nan _), .float (.nan _) => true
  | _, _ => a.sameKey b

/-- Which parts of a value are one and the same: parts with equal identities are. A part is found
under its key in a mapping, and under its position in a list. The keys of a mapping and the members
of a set may have an identity too. -/
inductive Sharing where
  | of (identity : Option Nat) (keys : List (Value × Option Nat)) (parts : List (Value × Sharing))

namespace Sharing

/-- A value whose parts are shared with nothing. -/
def leaf (identity : Option Nat) : Sharing := .of identity [] []

/-- Nothing is shared. -/
def none : Sharing := leaf .none

/-- The identity of the value itself. -/
def identity : Sharing → Option Nat
  | .of i _ _ => i

/-- The identities of the keys. -/
def keys : Sharing → List (Value × Option Nat)
  | .of _ ks _ => ks

/-- The parts, by key or position. -/
def parts : Sharing → List (Value × Sharing)
  | .of _ _ ps => ps

/-- The sharing of a key. -/
def key (s : Sharing) (key : Value) : Sharing :=
  match s.keys.find? fun k => sameNodeKey k.1 key with
  | some k => leaf k.2
  | .none => none

/-- The sharing inside the part under a key or position. -/
def part (s : Sharing) (key : Value) : Sharing :=
  match s.parts.find? fun p => sameNodeKey p.1 key with
  | some p => p.2
  | .none => none

/-- The value itself is shared with nothing, its keys and parts are as they were. -/
def apart (s : Sharing) : Sharing := .of .none s.keys s.parts

/-- The sharing of a mapping some of whose parts are shared with nothing, though their parts are as
they were. -/
def withApart (s : Sharing) (keys : List Value) : Sharing :=
  .of s.identity s.keys <| s.parts.map fun p =>
    if keys.any p.1.sameKey then (p.1, p.2.apart) else p

end Sharing

/-- A value that is read from a document or written to one, with what is shared in it. -/
structure Document where
  value : Value
  sharing : Sharing

/-! ## The library -/

/-- The families of exceptions that loading tells apart: those of files, of undecodable text and of
the library itself, and any other one by its class. -/
inductive Family where
  | os
  | decoding
  | yaml
  | other (className : String)
  deriving DecidableEq

/-- Whether loading settings catches the exceptions of a family. -/
def Family.isCaught : Family → Bool
  | .os | .decoding | .yaml => true
  | .other _ => false

/-- An exception. -/
structure Raised where
  family : Family
  message : String
  deriving DecidableEq

/-- A library for documents: how it reads a text, and how it writes a document with its entries in
order. Either may raise an exception. -/
structure Library where
  load : String → Except Raised Document
  dump : Document → Except Raised String

/-- A document that a library reads back: the text that it writes for the document, if it writes
one, is read as the same value, entries in order. Lines end in line feeds and other carriage returns
are escaped, so the text is the same after it has passed through a file. -/
structure Library.RoundTrips (yaml : Library) (d : Document) : Prop where
  loads : ∀ text, yaml.dump d = .ok text → ∃ read, yaml.load text = .ok read ∧ read.value = d.value
  lines : ∀ text, yaml.dump d = .ok text → '\r' ∉ text.toList

end SqlPrep.Yaml
