import SqlPrep.Yaml.Cursor

/-!
# Scalars as written

The text of a scalar in each of its written forms: between quotes, as a block after `|` or `>`, and
plain. Line breaks inside quoted and plain scalars fold: one break becomes a space, and of several
the first is dropped.
-/

namespace SqlPrep.Yaml

open Lexing

/-- What a line break and the empty lines after it fold to. -/
def folded (br : List Char) (breaks : List (List Char)) : List Char :=
  (if br ≠ ['\n'] then br else if breaks.isEmpty then [' '] else []) ++ breaks.flatten

/-! ## Quoted scalars -/

/-- The character that an escape of one letter stands for. -/
def escapes : List (Char × Char) :=
  [('0', '\x00'), ('a', '\x07'), ('b', '\x08'), ('t', '\t'), ('\t', '\t'), ('n', '\n'),
    ('v', '\x0B'), ('f', '\x0C'), ('r', '\r'), ('e', '\x1B'), (' ', ' '), ('"', '"'),
    ('\\', '\\'), ('/', '/'), ('N', '\x85'), ('_', '\xA0'), ('L', '\u2028'), ('P', '\u2029')]

/-- How many hexadecimal digits follow an escape by code point. -/
def escapeWidth? : Char → Option Nat
  | 'x' => some 2
  | 'u' => some 4
  | 'U' => some 8
  | _ => none

/-- The empty lines from here on, and the spaces and tabs in front of what follows them. -/
def readQuotedBreaks : Nat → Lexing (List (List Char))
  | 0 => return []
  | fuel + 1 => do
    require (!(← get).atSeparator) .separatorInQuote
    discard (takeRun fun c => c == ' ' || c == '\t')
    if isBreak (← peek) then
      let br ← lineBreak
      return br :: (← readQuotedBreaks fuel)
    return []

/-- The empty lines from here on. -/
def quotedBreaks : Lexing (List (List Char)) := do
  readQuotedBreaks ((← get).rest.length + 1)

/-- What an escape stands for, after its backslash. An escaped line break stands for the empty lines
that follow it. -/
def readEscape : Lexing (List Char) := do
  let c ← peek
  match escapes.lookup c, escapeWidth? c with
  | some image, _ =>
    skip 1
    return [image]
  | none, some width =>
    skip 1
    let digits := (← get).rest.take width
    require (digits.length == width) .escape
    match Text.hexNumber? digits with
    | none => fail .escape
    | some code =>
      if 0x110000 ≤ code then throw (.codePoint code)
      skip width
      return [Char.ofNat code]
  | none, none =>
    require (isBreak c) .escape
    discard lineBreak
    return (← quotedBreaks).flatten

/-- A character that is itself inside quotes of either kind. -/
def isQuotedText (c : Char) : Bool :=
  !(isGap c || c == '\'' || c == '"' || c == '\\')

/-- The text of a quoted scalar, after its opening mark and up to its closing one. -/
def readQuotedText (mark : Char) : Nat → Lexing (List Char)
  | 0 => fail .unclosedQuote
  | fuel + 1 => do
    let c ← get
    let ch := c.peek
    if isQuotedText ch then
      let run ← takeRun isQuotedText
      return run ++ (← readQuotedText mark fuel)
    else if mark = '\'' ∧ ch = '\'' ∧ c.ahead 1 = '\'' then
      skip 2
      return '\'' :: (← readQuotedText mark fuel)
    else if ch = mark then
      skip 1
      return []
    else if mark = '"' ∧ ch = '\\' then
      skip 1
      let image ← readEscape
      return image ++ (← readQuotedText mark fuel)
    else if ch = '\'' ∨ ch = '"' ∨ ch = '\\' then
      skip 1
      return ch :: (← readQuotedText mark fuel)
    else
      let spaces ← takeRun fun x => x == ' ' || x == '\t'
      let next ← peek
      require (next != endMark) .unclosedQuote
      if isBreak next then
        let br ← lineBreak
        let breaks ← quotedBreaks
        return folded br breaks ++ (← readQuotedText mark fuel)
      return spaces ++ (← readQuotedText mark fuel)

/-- A quoted scalar. -/
def readQuoted : Lexing (List Char) := do
  let mark ← peek
  skip 1
  readQuotedText mark ((← get).rest.length + 1)

/-! ## Block scalars -/

/-- What happens to the line breaks at the end of a block scalar. -/
inductive Chomping where
  | strip
  | clip
  | keep
  deriving DecidableEq

/-- The chomping that an indicator asks for. -/
def chompingOf? : Char → Option Chomping
  | '+' => some .keep
  | '-' => some .strip
  | _ => none

/-- The indentation that an indicator gives. Zero is refused. -/
def readIncrement? : Lexing (Option Nat) := do
  let c ← peek
  if c.isDigit then
    require (c != '0') .blockHeader
    skip 1
    return some (c.toNat - 48)
  return none

/-- The chomping that an indicator asks for, if there is one. -/
def readChomping? : Lexing (Option Chomping) := do
  match chompingOf? (← peek) with
  | some chomping =>
    skip 1
    return some chomping
  | none => return none

/-- The indicators after `|` or `>`, in either order. -/
def readBlockHeader : Lexing (Chomping × Option Nat) := do
  let before ← readChomping?
  let increment ← readIncrement?
  let after ← if before.isNone && increment.isSome then readChomping? else pure none
  require (isSpaceOrEnd (← peek)) .blockHeader
  blankLine .blockHeader
  return ((before.or after).getD .clip, increment)

/-- The empty lines in front of a block scalar, and the widest indentation among them and its first
line. -/
def readIndentation (widest : Nat) : Nat → Lexing (List (List Char) × Nat)
  | 0 => return ([], widest)
  | fuel + 1 => do
    let c ← peek
    if c = ' ' then
      skip 1
      readIndentation (max widest (← get).column) fuel
    else if isBreak c then
      let br ← lineBreak
      let (breaks, widest) ← readIndentation widest fuel
      return (br :: breaks, widest)
    else return ([], widest)

/-- Goes on after spaces, up to a column. -/
def skipIndent (indent : Nat) : Lexing Unit := do
  let c ← get
  let spaces := (c.run (· == ' ')).length
  skip (min spaces (indent - c.column))

/-- The empty lines from here on, and the indentation of what follows them. -/
def readBlockBreaks (indent : Nat) : Nat → Lexing (List (List Char))
  | 0 => return []
  | fuel + 1 => do
    skipIndent indent
    if isBreak (← peek) then
      let br ← lineBreak
      return br :: (← readBlockBreaks indent fuel)
    return []

/-- The lines of a block scalar, and the line breaks after the last one: the break that ends it and
those of the empty lines after it. -/
def readBlockLines (fold : Bool) (indent : Nat) (br : List Char) (breaks : List (List Char)) :
    Nat → Lexing (List Char × List Char × List (List Char))
  | 0 => return ([], br, breaks)
  | fuel + 1 => do
    let c ← get
    if c.column = indent ∧ c.peek ≠ endMark then
      let leadingText := !(c.peek == ' ' || c.peek == '\t')
      let line ← takeRun (!isBreakOrEnd ·)
      let br ← lineBreak
      let after ← readBlockBreaks indent ((← get).rest.length + 1)
      let next ← get
      let joint :=
        if next.column = indent ∧ next.peek ≠ endMark then
          if fold && br == ['\n'] && leadingText && !(next.peek == ' ' || next.peek == '\t') then
            if after.isEmpty then [' '] else []
          else br
        else []
      let (text, lastBreak, lastBreaks) ← readBlockLines fold indent br after fuel
      return (breaks.flatten ++ line ++ joint ++ text, lastBreak, lastBreaks)
    else return ([], br, breaks)

/-- A block scalar inside an indentation. -/
def readBlock (parentIndent : Int) : Lexing (List Char) := do
  let fold := (← peek) == '>'
  skip 1
  let (chomping, increment) ← readBlockHeader
  let least := max 1 (parentIndent + 1).toNat
  let fuel := (← get).rest.length + 1
  let (breaks, indent) ←
    match increment with
    | some n => do
      let indent := least + n - 1
      pure (← readBlockBreaks indent fuel, indent)
    | none => do
      let (breaks, widest) ← readIndentation 0 fuel
      pure (breaks, max least widest)
  let (text, br, after) ← readBlockLines fold indent [] breaks fuel
  return match chomping with
    | .strip => text
    | .clip => text ++ br
    | .keep => text ++ br ++ after.flatten

/-! ## Plain scalars -/

/-- Whether a plain scalar stops before the character here. -/
def endsPlain (flow : Bool) (c next : Char) : Bool :=
  isGap c || (c == ':' && (isGap next || (flow && ",[]\x7b\x7d".toList.contains next))) ||
    (flow && ",?[]\x7b\x7d".toList.contains c)

/-- The characters of a plain scalar up to the next gap. -/
def plainRun (flow : Bool) : List Char → List Char
  | [] => []
  | c :: rest =>
    if endsPlain flow c (rest.head?.getD endMark) then [] else c :: plainRun flow rest

/-- The empty lines and spaces after the first break in a plain scalar, up to a line that separates
documents: the breaks, and whether such a line was met. -/
def readPlainBreaks : Nat → Lexing (List (List Char) × Bool)
  | 0 => return ([], false)
  | fuel + 1 => do
    let c ← get
    if c.atSeparator then return ([], true)
    skipSpaces
    if isBreak (← peek) then
      let br ← lineBreak
      let (breaks, separated) ← readPlainBreaks fuel
      return (br :: breaks, separated)
    return ([], false)

/-- The gap inside a plain scalar: what it folds to (nothing if the scalar ends here), and whether a
line ended in it. -/
def readPlainGap : Lexing (List Char × Bool) := do
  let spaces ← takeRun (· == ' ')
  if isBreak (← peek) then
    let br ← lineBreak
    let (breaks, separated) ← readPlainBreaks ((← get).rest.length + 1)
    return (if separated then [] else folded br breaks, true)
  return (spaces, false)

/-- A plain scalar, and whether a line ended in the gap after its last character. -/
def readPlainText (flow : Bool) (indent : Nat) (gap : List Char) (lineEnded : Bool) :
    Nat → Lexing (List Char × Bool)
  | 0 => return ([], lineEnded)
  | fuel + 1 => do
    let c ← get
    let run := if c.peek = '#' then [] else plainRun flow c.rest
    if run.isEmpty then return ([], lineEnded)
    skip run.length
    let (next, ended) ← readPlainGap
    let c ← get
    if next.isEmpty || c.peek == '#' || (!flow && c.column < indent) then
      return (gap ++ run, ended)
    let (text, ended) ← readPlainText flow indent next ended fuel
    return (gap ++ run ++ text, ended)

/-- A plain scalar inside an indentation, and whether a line ended in the gap after it. -/
def readPlain (flow : Bool) (parentIndent : Int) : Lexing (List Char × Bool) := do
  readPlainText flow (parentIndent + 1).toNat [] false ((← get).rest.length + 1)

end SqlPrep.Yaml
