import SqlPrep.Calendar
import SqlPrep.Text.Quoted

/-!
# Why a document cannot be read

A document that is not well formed, or that holds a node that no value can be built for, has a
`Fault`. Some scalars are well formed but do not denote a value of their kind; these causes are kept
apart in `ReadError`, each with its wording.
-/

namespace SqlPrep.Yaml

/-- What is wrong with a document. -/
inductive Fault where
  | unprintable
  | unexpectedCharacter
  | missingColon
  | entryNotAllowed
  | keyNotAllowed
  | valueNotAllowed
  | directive
  | anchorName
  | tagName
  | escape
  | blockHeader
  | unclosedQuote
  | separatorInQuote
  | unmatchedEnd
  | unexpectedToken
  | tagHandle
  | version
  | repeatedDirective
  | severalDocuments
  | undefinedAlias
  | repeatedAnchor
  | unknownTag
  | nodeKind
  | unhashableKey
  | mergedNode
  | binaryText
  | choiceValue
  | tooDeep
  deriving DecidableEq

/-- Why no value can be read from a document. -/
inductive ReadError where
  | malformed (fault : Fault)
  | codePoint (value : Nat)
  | emptyNumber
  | integer (base : Nat) (text : String)
  | integerLength (digits : Nat)
  | double (text : String)
  | doubleRange
  | truth (word : String)
  | timestamp
  | timestampNode
  | calendar (cause : CalendarError)
  deriving DecidableEq

/-- The largest code point that an escape can name before its number is out of any range. -/
def largestCode : Nat := 0x7FFFFFFF

/-- The wording of the causes that are not faults of the document. -/
def ReadError.message : ReadError → String
  | .malformed _ => "<YAMLError>"
  | .codePoint value =>
    if value ≤ largestCode then "chr() arg not in range(0x110000)"
    else "Python int too large to convert to C int"
  | .emptyNumber => "string index out of range"
  | .integer base text =>
    s!"invalid literal for int() with base {base}: {Text.quotedUpTo 200 text}"
  | .integerLength digits =>
    s!"Exceeds the limit (4300 digits) for integer string conversion: value has {digits} digits; "
      ++ "use sys.set_int_max_str_digits() to increase the limit"
  | .double text => s!"could not convert string to float: {Text.quoted text}"
  | .doubleRange => "int too large to convert to float"
  | .truth word => Text.quoted word
  | .timestamp => "'NoneType' object has no attribute 'groupdict'"
  | .timestampNode => "expected string or bytes-like object, got 'list'"
  | .calendar cause => cause.message

end SqlPrep.Yaml
