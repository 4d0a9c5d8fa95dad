import SqlPrep.Yaml.Style

/-!
# A page under the pen

The text of a document while it is written, with what the next mark depends on: the column, whether
a space precedes it, and whether the line holds nothing but indentation and indicators so far.
-/

namespace SqlPrep.Yaml

/-- The text written so far (last character first) and the state of its last line. `openEnded` says
that the text so far could go on, so that an end mark has to follow it. -/
structure Page where
  text : List Char := []
  column : Nat := 0
  spaced : Bool := true
  indented : Bool := true
  openEnded : Bool := false

namespace Page

/-- The column after which lines are folded. -/
def width : Nat := 80

/-- Writes characters in the current line. -/
def put (p : Page) (cs : List Char) : Page :=
  { p with text := cs.reverse ++ p.text, column := p.column + cs.length }

/-- Starts a new line. -/
def lineBreak (p : Page) : Page :=
  { p with text := '\n' :: p.text, column := 0, spaced := true, indented := true }

/-- Writes an indicator, after a space if it needs one and none is there. -/
def indicator (p : Page) (mark : List Char) (needsSpace : Bool) : Page :=
  let p := p.put (if p.spaced || !needsSpace then mark else ' ' :: mark)
  { p with spaced := false, indented := false, openEnded := false }

/-- Writes an indicator that leaves the line open for further indentation. -/
def indentingIndicator (p : Page) (mark : List Char) : Page :=
  { p.indicator mark true with indented := p.indented }

/-- Goes to a column: in this line if nothing but indentation is in it and the column is ahead, in a
new line otherwise. -/
def indent (p : Page) (column : Nat) : Page :=
  let p :=
    if !p.indented || column < p.column || (p.column == column && !p.spaced) then p.lineBreak
    else p
  if p.column < column then
    { p.put (List.replicate (column - p.column) ' ') with spaced := true }
  else p

/-- The page with text in its last line. -/
def inText (p : Page) : Page :=
  { p with spaced := false, indented := false }

/-! ## Scalars -/

/-- Splits a text into runs of spaces, of line breaks and of other characters. -/
def runs : List Char → List (List Char)
  | [] => []
  | c :: rest =>
    let kind (x : Char) : Nat := if x = ' ' then 0 else if Analysis.isLineEnd x then 1 else 2
    match runs rest with
    | (d :: run) :: others =>
      if kind c = kind d then (c :: d :: run) :: others else [c] :: (d :: run) :: others
    | others => [c] :: others

/-- Whether a run is a single space at which a line can be folded here. -/
def folds (p : Page) (split : Bool) (run : List Char) : Bool :=
  split && run == [' '] && decide (width < p.column)

/-- Writes a plain scalar. -/
def plain (p : Page) (text : List Char) (column : Nat) (split root : Bool) : Page :=
  let p := { p with openEnded := p.openEnded || root }
  let p := if p.spaced then p else p.put [' ']
  (runs text).foldl (fun p run =>
    if p.folds split run then (p.indent column).inText else p.put run) p.inText

/-- Writes a run of line breaks in a quoted scalar: one more than there are. -/
def breaks (p : Page) (run : List Char) (column : Nat) : Page :=
  ((run.foldl (fun p _ => p.lineBreak) p).lineBreak).indent column

/-- The runs after the first one of a scalar between single quotes. A space at the very end does not
fold. -/
def singleRuns (p : Page) (column : Nat) (split : Bool) : List (List Char) → Page
  | [] => p
  | run :: rest =>
    let p :=
      if run.any Analysis.isLineEnd then p.breaks run column
      else if p.folds (split && !rest.isEmpty) run then p.indent column
      else p.put (run.flatMap fun c => if c = '\'' then ['\'', '\''] else [c])
    singleRuns p column split rest

/-- Writes a scalar between single quotes. Marks inside are doubled. -/
def single (p : Page) (text : List Char) (column : Nat) (split : Bool) : Page :=
  let p := p.indicator ['\''] true
  let p :=
    match runs text with
    | [] => p
    | first :: rest => (p.singleRuns column false [first]).singleRuns column split rest
  p.indicator ['\''] false

/-- The letters that escape single characters. -/
def letters : List (Char × Char) :=
  [('\x00', '0'), ('\x07', 'a'), ('\x08', 'b'), ('\t', 't'), ('\n', 'n'), ('\x0B', 'v'),
    ('\x0C', 'f'), ('\r', 'r'), ('\x1B', 'e'), ('"', '"'), ('\\', '\\'), ('\x85', 'N'),
    ('\xA0', '_'), ('\u2028', 'L'), ('\u2029', 'P')]

/-- A hexadecimal number in upper case. -/
def upperHex (size n : Nat) : List Char :=
  (Text.paddedDigits 16 size n).map Char.toUpper

/-- The escape of a character that cannot stand between double quotes. -/
def escape? (c : Char) : Option (List Char) :=
  match letters.lookup c with
  | some letter => some ['\\', letter]
  | none =>
    if ' ' ≤ c ∧ c ≤ '~' then none
    else if c.toNat < 0x100 then some (['\\', 'x'] ++ upperHex 2 c.toNat)
    else if c.toNat < 0x10000 then some (['\\', 'u'] ++ upperHex 4 c.toNat)
    else some (['\\', 'U'] ++ upperHex 8 c.toNat)

/-- Ends a line between double quotes by a backslash. A space in front of the next line is
escaped. -/
def foldDouble (p : Page) (column : Nat) (next : Option Char) : Page :=
  let p := ((p.put ['\\']).indent column).inText
  if next = some ' ' then p.put ['\\'] else p

/-- The characters of a scalar between double quotes, after the first one. `pending` holds the
characters that are not written yet, last one first. A line can be folded in front of a space and
after an escape. -/
def doubleText (p : Page) (column : Nat) (split : Bool) (pending : List Char) :
    List Char → Page
  | [] => p.put pending.reverse
  | c :: rest =>
    let inside := split && !rest.isEmpty
    match escape? c with
    | some escape =>
      let p := (p.put pending.reverse).put escape
      let p := if inside && decide (width + 1 < p.column) then p.foldDouble column rest.head? else p
      doubleText p column split [] rest
    | none =>
      if inside && (c == ' ' || pending.isEmpty) && decide (width < p.column + pending.length) then
        doubleText ((p.put pending.reverse).foldDouble column (some c)) column split [c] rest
      else doubleText p column split (c :: pending) rest

/-- Writes a scalar between double quotes. -/
def double (p : Page) (text : List Char) (column : Nat) (split : Bool) : Page :=
  let p := p.indicator ['"'] true
  let p :=
    match text with
    | [] => p
    | c :: rest =>
      match escape? c with
      | some escape => (p.put escape).doubleText column split [] rest
      | none => p.doubleText column split [c] rest
  p.indicator ['"'] false

/-- The lines of a text, each without its line feed. -/
def lines : List Char → List (List Char)
  | [] => []
  | c :: rest =>
    if c = '\n' then [] :: lines rest
    else match lines rest with
      | [] => [[c]]
      | line :: others => (c :: line) :: others

/-- Writes a scalar as a block of lines. -/
def literal (p : Page) (text : List Char) (column : Nat) : Page :=
  (lines text).foldl (fun p line => ((p.indent column).put line).lineBreak)
    (p.indicator ['|'] true).lineBreak

/-- Writes a scalar in a style. -/
def scalar (p : Page) (style : Style) (text : List Char) (column : Nat) (split root : Bool) : Page :=
  match style with
  | .plain => p.plain text column split root
  | .single => p.single text column split
  | .double => p.double text column split
  | .literal => p.literal text column

end Page
end SqlPrep.Yaml
