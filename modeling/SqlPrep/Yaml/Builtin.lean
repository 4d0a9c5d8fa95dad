import SqlPrep.Yaml.Library
import SqlPrep.Yaml.Node.Write

/-!
# The library that runs

A library for YAML 1.1 documents made of the reader and the writer of this project. The program runs
with it, and it is the one at which statements about every library are tried; no statement is about
it alone, unless it says so. Recursive documents and nesting without bound are not read.
-/

namespace SqlPrep.Yaml

/-- The family of the exception for a text that cannot be read. -/
def ReadError.family : ReadError → Family
  | .malformed _ => .yaml
  | .integer _ _ | .integerLength _ | .double _ | .calendar _ => .other "ValueError"
  | .codePoint value => .other (if value ≤ largestCode then "ValueError" else "OverflowError")
  | .emptyNumber => .other "IndexError"
  | .truth _ => .other "KeyError"
  | .timestamp => .other "AttributeError"
  | .timestampNode => .other "TypeError"
  | .doubleRange => .other "OverflowError"

/-- The exception for a text that cannot be read. -/
def ReadError.raised (cause : ReadError) : Raised :=
  ⟨cause.family, cause.message⟩

/-- The reader and the writer of this project as a library. -/
def builtin : Library where
  load text := (Document.ofText text.toList).mapError ReadError.raised
  dump d := (d.render.map String.ofList).mapError fun fault => (ReadError.malformed fault).raised

end SqlPrep.Yaml
