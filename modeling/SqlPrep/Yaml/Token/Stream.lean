import SqlPrep.Yaml.Token.Name
import SqlPrep.Yaml.Token.Scalar

/-!
# The tokens of a text

Splits a text into tokens. The lexer keeps the columns of the open block collections, and for each
open flow collection the place of a node that turns out to be a key if a `:` follows it on the same
line. When that `:` comes, the token that announces the key is put in front of the node.
-/

namespace SqlPrep.Yaml

/-- A node that may turn out to be a key. `token` counts the tokens in front of it. Without its `:`,
a node at the column of a block mapping is refused. -/
structure KeyCandidate where
  token : Nat
  required : Bool
  index : Nat
  line : Nat
  column : Nat

/-- What the lexer knows at a position: the tokens so far (last one first), the column of the open
block collection with those outside it, whether a key may start here, and a candidate for a key for
each open flow collection (innermost first) and for the block around them. -/
structure Lexer where
  cursor : Cursor
  tokens : List Token := []
  indent : Int := -1
  outer : List Int := []
  keyAllowed : Bool := true
  candidates : List (Option KeyCandidate) := [none]

/-- The furthest that a `:` may be from the key in front of it. -/
def longestKey : Nat := 1024

namespace Lexer

/-- Inside a flow collection. -/
def inFlow (x : Lexer) : Bool :=
  1 < x.candidates.length

/-- Adds a token at the end. -/
def push (x : Lexer) (t : Token) : Lexer :=
  { x with tokens := t :: x.tokens }

/-- Puts a token behind the first `place` tokens. -/
def insert (x : Lexer) (place : Nat) (t : Token) : Lexer :=
  { x with tokens := x.tokens.insertIdx (x.tokens.length - place) t }

/-- Adds a token and goes on after a number of characters. -/
def advance (x : Lexer) (t : Token) (n : Nat) : Lexer :=
  { x.push t with cursor := x.cursor.skip n }

/-- Reads a part of the text. -/
def read (x : Lexer) (part : Lexing α) : Except ReadError (α × Lexer) := do
  let (a, cursor) ← part.run x.cursor
  return (a, { x with cursor := cursor })

/-- Gives up a candidate. One that had to be a key is missing its `:`. -/
def giveUp : Option KeyCandidate → Except ReadError (Option KeyCandidate)
  | none => .ok none
  | some k => if k.required then .error (.malformed .missingColon) else .ok none

/-- Gives up the candidates that the position has left behind. -/
def dropStale (x : Lexer) : Except ReadError Lexer := do
  let candidates ← x.candidates.mapM fun candidate =>
    match candidate with
    | none => pure none
    | some k =>
      if k.line ≠ x.cursor.line ∨ longestKey < x.cursor.index - k.index then giveUp candidate
      else pure candidate
  return { x with candidates := candidates }

/-- The candidate of the innermost collection. -/
def candidate (x : Lexer) : Option KeyCandidate :=
  x.candidates.head?.join

/-- Replaces the candidate of the innermost collection. -/
def setCandidate (x : Lexer) (k : Option KeyCandidate) : Lexer :=
  { x with candidates := k :: x.candidates.tail }

/-- Gives up the candidate of the innermost collection. -/
def dropCandidate (x : Lexer) : Except ReadError Lexer := do
  return x.setCandidate (← giveUp x.candidate)

/-- Notes that the node here may be a key, where a key may start. -/
def noteCandidate (x : Lexer) : Except ReadError Lexer := do
  if !x.keyAllowed then return x
  let x ← x.dropCandidate
  let c := x.cursor
  let required := !x.inFlow && x.indent == c.column
  return x.setCandidate (some ⟨x.tokens.length, required, c.index, c.line, c.column⟩)

/-- Closes the block collections that start to the right of a column. -/
def closeBlocks (x : Lexer) (column : Int) : Lexer :=
  if x.inFlow then x
  else
    let closed := (x.indent :: x.outer).takeWhile (column < ·)
    match (x.indent :: x.outer).drop closed.length with
    | [] => x
    | indent :: outer =>
      { x with
        tokens := List.replicate closed.length .blockEnd ++ x.tokens
        indent := indent
        outer := outer }

/-- Opens a block collection at a column to the right of the open one, by a token behind the first
`place` tokens. -/
def openBlock (x : Lexer) (column : Nat) (place : Nat) (t : Token) : Lexer :=
  if x.indent < column then
    { x.insert place t with indent := column, outer := x.indent :: x.outer }
  else x

/-- Goes on after spaces, comments and line ends. A key may start on a new line of a block. -/
def skipGaps (x : Lexer) : Nat → Lexer
  | 0 => x
  | fuel + 1 =>
    let c := x.cursor.skipSpaces.skipComment
    if isBreak c.peek then
      skipGaps { x with cursor := c.lineBreak.2, keyAllowed := x.keyAllowed || !x.inFlow } fuel
    else { x with cursor := c }

/-- A token that stands for a node or for a property of one. -/
def node (x : Lexer) (part : Lexing Token) : Except ReadError Lexer := do
  let x ← x.noteCandidate
  let (t, x) ← x.read part
  return { x.push t with keyAllowed := false }

/-- A token that ends all block collections. -/
def documentMark (x : Lexer) : Except ReadError Lexer := do
  let x ← (x.closeBlocks (-1)).dropCandidate
  return { x with keyAllowed := false }

/-- The start of a flow collection. -/
def flowStart (x : Lexer) (t : Token) : Except ReadError Lexer := do
  let x ← x.noteCandidate
  return { x.advance t 1 with candidates := none :: x.candidates, keyAllowed := true }

/-- The end of a flow collection. -/
def flowEnd (x : Lexer) (t : Token) : Except ReadError Lexer := do
  if !x.inFlow then throw (.malformed .unmatchedEnd)
  let x ← x.dropCandidate
  return { x.advance t 1 with candidates := x.candidates.tail, keyAllowed := false }

/-- The comma between the members of a flow collection. -/
def flowEntry (x : Lexer) : Except ReadError Lexer := do
  let x ← x.dropCandidate
  return { x.advance .flowEntry 1 with keyAllowed := true }

/-- An indicator that opens a block collection if it stands to the right of the open one. -/
def blockIndicator (x : Lexer) (start : Token) (fault : Fault) : Except ReadError Lexer := do
  if x.inFlow then return x
  if !x.keyAllowed then throw (.malformed fault)
  return x.openBlock x.cursor.column x.tokens.length start

/-- The indicator of a member of a sequence. -/
def entry (x : Lexer) : Except ReadError Lexer := do
  let x ← x.blockIndicator .sequenceStart .entryNotAllowed
  let x ← x.dropCandidate
  return { x.advance .entry 1 with keyAllowed := true }

/-- The indicator of a key. -/
def key (x : Lexer) : Except ReadError Lexer := do
  let x ← x.blockIndicator .mappingStart .keyNotAllowed
  let x ← x.dropCandidate
  return { x.advance .key 1 with keyAllowed := !x.inFlow }

/-- The indicator of a value. It makes the candidate in front of it a key. -/
def value (x : Lexer) : Except ReadError Lexer := do
  match x.candidate with
  | some k =>
    let x := (x.setCandidate none).insert k.token .key
    let x := if x.inFlow then x else x.openBlock k.column k.token .mappingStart
    return { x.advance .value 1 with keyAllowed := false }
  | none =>
    let x ← x.blockIndicator .mappingStart .valueNotAllowed
    return { x.advance .value 1 with keyAllowed := !x.inFlow }

/-- A block scalar. -/
def blockScalar (x : Lexer) : Except ReadError Lexer := do
  let x ← x.dropCandidate
  let (text, x) ← x.read (readBlock x.indent)
  return { x.push (.scalar text false) with keyAllowed := true }

/-- A plain scalar. A key may follow it when a line ended after it. -/
def plain (x : Lexer) : Except ReadError Lexer := do
  let x ← x.noteCandidate
  let ((text, lineEnded), x) ← x.read (readPlain x.inFlow x.indent)
  return { x.push (.scalar text true) with keyAllowed := lineEnded }

/-- Whether an indicator here is followed by a gap, or is inside a flow collection. -/
def indicates (x : Lexer) : Bool :=
  x.inFlow || isGap (x.cursor.ahead 1)

/-- Whether a plain scalar can start here. -/
def startsPlain (x : Lexer) : Bool :=
  let c := x.cursor.peek
  !(isGap c || "-?:,[]\x7b\x7d#&*!|>'\"%@`".toList.contains c) ||
    (!isGap (x.cursor.ahead 1) && (c == '-' || (!x.inFlow && (c == '?' || c == ':'))))

/-- The token here, for a position at which neither a gap nor the end is. -/
def token (x : Lexer) : Except ReadError Lexer :=
  let c := x.cursor
  match c.peek with
  | '%' =>
    if c.column = 0 then do
      let x ← x.documentMark
      let (d, x) ← x.read readDirective
      return x.push (.directive d)
    else .error (.malformed .unexpectedCharacter)
  | '[' => x.flowStart .flowSequenceStart
  | '\x7b' => x.flowStart .flowMappingStart
  | ']' => x.flowEnd .flowSequenceEnd
  | '\x7d' => x.flowEnd .flowMappingEnd
  | ',' => x.flowEntry
  | '*' => x.node (.alias <$> readName)
  | '&' => x.node (.anchor <$> readName)
  | '!' => x.node (.tag <$> readTag)
  | '\'' | '"' => x.node ((.scalar · false) <$> readQuoted)
  | ch =>
    if c.column = 0 ∧ c.atMark "---" then
      x.documentMark.map (·.advance .documentStart 3)
    else if c.column = 0 ∧ c.atMark "..." then
      x.documentMark.map (·.advance .documentEnd 3)
    else if ch = '-' ∧ isGap (c.ahead 1) then x.entry
    else if ch = '?' ∧ x.indicates then x.key
    else if ch = ':' ∧ x.indicates then x.value
    else if (ch = '|' ∨ ch = '>') ∧ !x.inFlow then x.blockScalar
    else if x.startsPlain then x.plain
    else .error (.malformed .unexpectedCharacter)

/-- The tokens from here to the end of the text, in order. -/
def finish (x : Lexer) : Nat → Except ReadError (List Token)
  | 0 => .error (.malformed .tooDeep)
  | fuel + 1 => do
    let x := x.skipGaps (x.cursor.rest.length + 1)
    let x := (← x.dropStale).closeBlocks x.cursor.column
    if x.cursor.rest.isEmpty then
      return ((← x.documentMark).push .streamEnd).tokens.reverse
    else (← x.token).finish fuel

end Lexer

/-- Whether a character may stand in a document. -/
def isDocumentChar (c : Char) : Bool :=
  c == '\t' || c == '\n' || c == '\r' || (' ' ≤ c && c ≤ '~') || c == '\x85' ||
    ('\xA0' ≤ c && c.toNat ≤ 0xFFFD) || 0x10000 ≤ c.toNat

/-- The tokens of a text. A byte-order mark in front of it is skipped. -/
def Token.ofText (text : List Char) : Except ReadError (List Token) := do
  if !text.all isDocumentChar then throw (.malformed .unprintable)
  let start : Cursor := { rest := text }
  let cursor := if start.peek = '\uFEFF' then start.next else start
  Lexer.finish { cursor := cursor } (text.length + 2)

end SqlPrep.Yaml
