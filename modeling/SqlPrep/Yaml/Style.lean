import SqlPrep.Yaml.Node

/-!
# Styles of scalars

How a scalar is written: plain where the text alone shows its tag, between single quotes where all
its characters can stand there, between double quotes with escapes otherwise, and as a block for
bytes. Characters beyond ASCII are always escaped.
-/

namespace SqlPrep.Yaml

/-- How a scalar is written. -/
inductive Style where
  | plain
  | single
  | double
  | literal
  deriving DecidableEq

/-- What matters about a text for the choice of its style. -/
structure Analysis where
  multiline : Bool
  plainAllowed : Bool
  singleAllowed : Bool
  literalAllowed : Bool

namespace Analysis

/-- A line break in a written document. -/
def isLineEnd (c : Char) : Bool :=
  c == '\n' || c == '\x85' || c == '\u2028' || c == '\u2029'

/-- A character that can stand in a document unescaped, the line feed included. -/
def isOrdinary (c : Char) : Bool :=
  c == '\n' || (' ' ≤ c && c ≤ '~')

/-- Whether a text starts like a line that separates documents. -/
def startsSeparator (cs : List Char) : Bool :=
  "---".toList.isPrefixOf cs || "...".toList.isPrefixOf cs

/-- Whether the text that follows an indicator starts with a gap. -/
def gapAfter (rest : List Char) : Bool :=
  isGap (rest.head?.getD endMark)

/-- Whether the first character of a text is an indicator. -/
def startsIndicator : List Char → Bool
  | [] => false
  | c :: rest =>
    "#,[]\x7b\x7d&*!|>'\"%@`".toList.contains c ||
      ((c == '?' || c == ':' || c == '-') && gapAfter rest)

/-- Whether a text has an indicator after its first character: a colon in front of a gap or a number
sign behind one. -/
def holdsIndicator : List Char → Bool
  | [] | [_] => false
  | before :: c :: rest =>
    (c == ':' && gapAfter rest) || (c == '#' && isGap before) || holdsIndicator (c :: rest)

/-- Whether two neighbouring characters satisfy two tests. -/
def holdsPair (first second : Char → Bool) : List Char → Bool
  | [] | [_] => false
  | a :: b :: rest => (first a && second b) || holdsPair first second (b :: rest)

/-- A space. -/
def isSpace (c : Char) : Bool := c == ' '

/-- Whether a text starts or ends with a space or line break. -/
def hasOuterGap (cs : List Char) : Bool :=
  let isEdge := fun c => isSpace c || isLineEnd c
  cs.head?.any isEdge || cs.getLast?.any isEdge

/-- What matters about a text. -/
def ofText (cs : List Char) : Analysis :=
  if cs.isEmpty then ⟨false, true, true, false⟩
  else
    let indicators := startsSeparator cs || startsIndicator cs || holdsIndicator cs
    let multiline := cs.any isLineEnd
    let spaceAfterBreak := holdsPair isLineEnd isSpace cs
    let special := holdsPair isSpace isLineEnd cs || !cs.all isOrdinary
    { multiline := multiline
      plainAllowed := !(hasOuterGap cs || spaceAfterBreak || special || multiline || indicators)
      singleAllowed := !(spaceAfterBreak || special)
      literalAllowed := !(cs.getLast?.any isSpace || special) }

end Analysis

/-- The style of a scalar, as a key on one line with its value or elsewhere. -/
def Style.of (tag : Tag) (text : List Char) (simpleKey : Bool) : Style :=
  let a := Analysis.ofText text
  if tag = .binary then
    if !simpleKey && a.literalAllowed then .literal else .double
  else if tag = .implicit text && !(simpleKey && (text.isEmpty || a.multiline)) &&
      a.plainAllowed then .plain
  else if a.singleAllowed && !(simpleKey && a.multiline) then .single
  else .double

/-- Whether the tag of a scalar has to be written for its style. -/
def Style.showsTag (style : Style) (tag : Tag) (text : List Char) : Bool :=
  match style with
  | .plain => tag != .implicit text
  | _ => tag != .str

end SqlPrep.Yaml
