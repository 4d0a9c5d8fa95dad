/-!
# Tokens of a document

The tokens that a document is made of. Indentation is already resolved: a block collection is opened
and closed by tokens of its own, and a key is announced by a token in front of it.
-/

namespace SqlPrep.Yaml

/-- A tag as written: a handle with a suffix, or a whole tag without a handle. -/
structure WrittenTag where
  handle : Option (List Char)
  suffix : List Char
  deriving DecidableEq

/-- A directive in front of a document. -/
inductive Directive where
  | version (major minor : Nat)
  | tag (handle prefixText : List Char)
  | other
  deriving DecidableEq

/-- A token of a document. -/
inductive Token where
  | directive (value : Directive)
  | documentStart
  | documentEnd
  | sequenceStart
  | mappingStart
  | blockEnd
  | flowSequenceStart
  | flowSequenceEnd
  | flowMappingStart
  | flowMappingEnd
  | entry
  | flowEntry
  | key
  | value
  | alias (name : List Char)
  | anchor (name : List Char)
  | tag (written : WrittenTag)
  | scalar (text : List Char) (plain : Bool)
  | streamEnd
  deriving DecidableEq

end SqlPrep.Yaml
