import SqlPrep.Yaml.Fault

/-!
# A cursor in a document

Where a lexer stands: the characters that are left, and the position as a count of characters, a
line and a column. The end of the text is seen as the character NUL, which no document holds. A
byte-order mark takes no column.
-/

namespace SqlPrep.Yaml

/-- The character that is seen at the end of a text. -/
def endMark : Char := '\x00'

/-- A character that ends a line. -/
def isBreak (c : Char) : Bool :=
  c == '\n' || c == '\r' || c == '\x85' || c == '\u2028' || c == '\u2029'

/-- A character that ends a line, or the end of the text. -/
def isBreakOrEnd (c : Char) : Bool :=
  isBreak c || c == endMark

/-- A space, or what ends a line. -/
def isSpaceOrEnd (c : Char) : Bool :=
  c == ' ' || isBreakOrEnd c

/-- A space or tab, or what ends a line: what separates an indicator from its content. -/
def isGap (c : Char) : Bool :=
  c == '\t' || isSpaceOrEnd c

/-- A character of the name of an anchor, a directive or a tag handle. -/
def isWordChar (c : Char) : Bool :=
  c.isAlphanum || c == '-' || c == '_'

/-- A position in a document. -/
structure Cursor where
  rest : List Char
  index : Nat := 0
  line : Nat := 0
  column : Nat := 0

namespace Cursor

/-- The character some places ahead. -/
def ahead (c : Cursor) (places : Nat) : Char :=
  (c.rest[places]?).getD endMark

/-- The character here. -/
def peek (c : Cursor) : Char :=
  c.ahead 0

/-- Whether a character starts a new line after it, given the character that follows. -/
def endsLine (c next : Char) : Bool :=
  isBreak c && !(c == '\r' && next == '\n')

/-- The position after one character. -/
def next (c : Cursor) : Cursor :=
  match c.rest with
  | [] => c
  | ch :: rest =>
    if endsLine ch (rest.head?.getD endMark) then ⟨rest, c.index + 1, c.line + 1, 0⟩
    else ⟨rest, c.index + 1, c.line, if ch = '\uFEFF' then c.column else c.column + 1⟩

/-- The position after a number of characters. -/
def skip (c : Cursor) : Nat → Cursor
  | 0 => c
  | n + 1 => c.next.skip n

/-- The characters from here on that satisfy a test. -/
def run (c : Cursor) (test : Char → Bool) : List Char :=
  c.rest.takeWhile test

/-- The position after the characters that satisfy a test. -/
def skipRun (c : Cursor) (test : Char → Bool) : Cursor :=
  c.skip (c.run test).length

/-- The position after the spaces from here on. -/
def skipSpaces (c : Cursor) : Cursor :=
  c.skipRun (· == ' ')

/-- The position after a comment that starts here. -/
def skipComment (c : Cursor) : Cursor :=
  if c.peek = '#' then c.skipRun (!isBreakOrEnd ·) else c

/-- A line break, as it is read, and the position after it. Most breaks are read as a line feed. -/
def lineBreak (c : Cursor) : List Char × Cursor :=
  let ch := c.peek
  if ch = '\r' ∧ c.ahead 1 = '\n' then (['\n'], c.skip 2)
  else if ch = '\r' ∨ ch = '\n' ∨ ch = '\x85' then (['\n'], c.next)
  else if ch = '\u2028' ∨ ch = '\u2029' then ([ch], c.next)
  else ([], c)

/-- Whether the three characters here are a mark, with a gap after them. -/
def atMark (c : Cursor) (mark : String) : Bool :=
  c.rest.take 3 == mark.toList && isGap (c.ahead 3)

/-- Whether a line that starts or ends a document begins here. -/
def atSeparator (c : Cursor) : Bool :=
  c.atMark "---" || c.atMark "..."

end Cursor

/-- A reader of a part of a document: the part and the position after it, or why there is none. -/
abbrev Lexing (α : Type) := StateT Cursor (Except ReadError) α

namespace Lexing

/-- Fails with a fault of the document. -/
def fail (fault : Fault) : Lexing α :=
  throw (.malformed fault)

/-- Fails with a fault unless a condition holds. -/
def require (condition : Bool) (fault : Fault) : Lexing Unit :=
  if condition then pure () else fail fault

/-- The character here. -/
def peek : Lexing Char :=
  return (← get).peek

/-- Goes on after a number of characters. -/
def skip (n : Nat) : Lexing Unit :=
  modify (·.skip n)

/-- The characters that satisfy a test, going on after them. -/
def takeRun (test : Char → Bool) : Lexing (List Char) := do
  let c ← get
  set (c.skipRun test)
  return c.run test

/-- Goes on after the spaces. -/
def skipSpaces : Lexing Unit :=
  modify (·.skipSpaces)

/-- A line break, going on after it. -/
def lineBreak : Lexing (List Char) := do
  let (br, c) := (← get).lineBreak
  set c
  return br

/-- The rest of a line that may hold only spaces and a comment, going on in the next line. -/
def blankLine (fault : Fault) : Lexing Unit := do
  modify fun c => c.skipSpaces.skipComment
  require (isBreakOrEnd (← peek)) fault
  discard lineBreak

end Lexing
end SqlPrep.Yaml
