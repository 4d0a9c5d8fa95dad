import SqlPrep.Choice
import SqlPrep.Comment.DollarTag
import SqlPrep.Comment.ScanState

/-!
# Comment removal

Removes `--` and `/* */` comments that stand outside quoted text. Single quotes, double quotes and
dollar quotes shield their content; inside the first two a backslash shields the next character and
a doubled mark is content. The line feed that ends a line comment is kept, so lines keep their
numbers.

The scan is a list of moves. Each move takes one character or more, either keeps all of them or
drops all of them, and leads to the next state.
-/

namespace SqlPrep.Comment

/-- What a scan does at one character: how many further characters it takes, whether it keeps them,
and the state it goes on in. -/
structure Step where
  extra : Nat
  kept : Bool
  after : ScanState
  deriving DecidableEq

/-- Keeps a character and some further ones. -/
def keep (extra : Nat) (after : ScanState) : Step := ⟨extra, true, after⟩

/-- Drops a character and some further ones. -/
def drop (extra : Nat) (after : ScanState) : Step := ⟨extra, false, after⟩

/-- The step inside a line comment. -/
def lineCommentStep (st : ScanState) (c : Char) : Step :=
  if c = '\n' then keep 0 { st with lineComment := false } else drop 0 st

/-- The step inside a block comment. -/
def blockCommentStep (st : ScanState) (c : Char) (rest : List Char) : Step :=
  if c = '*' ∧ rest.head? = some '/' then drop 1 { st with blockComment := false }
  else drop 0 st

/-- The step at a single quote mark outside the other quotes. -/
def singleQuoteStep (st : ScanState) (rest : List Char) : Step :=
  if st.singleQuote ∧ rest.head? = some '\'' then keep 1 st
  else keep 0 { st with singleQuote := !st.singleQuote }

/-- The step at a double quote mark outside the other quotes. -/
def doubleQuoteStep (st : ScanState) (rest : List Char) : Step :=
  if st.doubleQuote ∧ rest.head? = some '"' then keep 1 st
  else keep 0 { st with doubleQuote := !st.doubleQuote }

/-- The step at a dollar sign outside the other quotes. A delimiter opens a dollar quote, or closes
the open one if it has the same tag. -/
def dollarStep (st : ScanState) (rest : List Char) : Step :=
  match tagAfter? rest with
  | none => keep 0 st
  | some tag =>
    if st.dollarQuote then
      if st.tag = some tag then
        keep (tag.length + 1) { st with dollarQuote := false, tag := none }
      else keep 0 st
    else keep (tag.length + 1) { st with dollarQuote := true, tag := some tag }

/-- The step at a character that opens or closes no comment. -/
def quoteStep (st : ScanState) (c : Char) (rest : List Char) : Step :=
  if c = '\'' ∧ !st.doubleQuote ∧ !st.dollarQuote then singleQuoteStep st rest
  else if c = '"' ∧ !st.singleQuote ∧ !st.dollarQuote then doubleQuoteStep st rest
  else if c = '$' ∧ !st.singleQuote ∧ !st.doubleQuote then dollarStep st rest
  else keep 0 st

/-- Whether a removed line comment opens at a character. -/
def opensLine (strategy : Strategy) (st : ScanState) (c : Char) (rest : List Char) : Bool :=
  !st.inQuote && c == '-' && rest.head? == some '-' && strategy.removesOneline

/-- Whether a removed block comment opens at a character. -/
def opensBlock (strategy : Strategy) (st : ScanState) (c : Char) (rest : List Char) : Bool :=
  !st.inQuote && c == '/' && rest.head? == some '*' && strategy.removesMultiline

/-- The step of the scan at a character, with the text that follows it. -/
def step (strategy : Strategy) (st : ScanState) (c : Char) (rest : List Char) : Step :=
  if st.escapePending then ⟨0, !st.inComment, { st with escapePending := false }⟩
  else if c = '\\' ∧ (st.singleQuote || st.doubleQuote) then
    keep 0 { st with escapePending := true }
  else if st.lineComment then lineCommentStep st c
  else if st.blockComment then blockCommentStep st c rest
  else if opensLine strategy st c rest then drop 1 { st with lineComment := true }
  else if opensBlock strategy st c rest then drop 1 { st with blockComment := true }
  else quoteStep st c rest

/-- One move of the scan: the characters that it takes, whether they are kept, and the state after
it. -/
structure Move where
  taken : List Char
  kept : Bool
  after : ScanState
  deriving DecidableEq

/-- The characters that a move puts out. -/
def Move.emitted (m : Move) : List Char :=
  if m.kept then m.taken else []

/-- The moves of the scan of a text from a state. -/
def moves (strategy : Strategy) (st : ScanState) : List Char → List Move
  | [] => []
  | c :: rest =>
    let s := step strategy st c rest
    ⟨c :: rest.take s.extra, s.kept, s.after⟩ :: moves strategy s.after (rest.drop s.extra)
termination_by text => text.length
decreasing_by simp only [List.length_drop, List.length_cons]; omega

/-- What moves put out together. -/
def emitted (ms : List Move) : List Char :=
  ms.flatMap Move.emitted

/-- The state after moves that start in a state. -/
def endState (st : ScanState) : List Move → ScanState
  | [] => st
  | m :: ms => endState m.after ms

/-- A move with the fault of the state that it leads to. -/
abbrev AuditedMove := Move × Option StateFault

/-- The moves up to the first that leads to a faulty state. -/
def audit : List Move → List AuditedMove
  | [] => []
  | m :: ms =>
    match m.after.fault? with
    | none => (m, none) :: audit ms
    | some fault => [(m, some fault)]

/-- A text without its comments, and the construct that the text ends inside of. -/
structure Removed where
  text : List Char
  unterminated : Option Construct
  deriving DecidableEq

/-- Removes the comments that a strategy removes. Under `none` the text is not scanned. -/
def remove (strategy : Strategy) (sql : List Char) : Removed :=
  if strategy = .none then ⟨sql, none⟩
  else
    let ms := moves strategy {} sql
    ⟨emitted ms, (endState {} ms).unterminated?⟩

/-- The text without the comments that a strategy removes. -/
def removeComments (strategy : Strategy) (sql : String) : String :=
  String.ofList (remove strategy sql.toList).text

end SqlPrep.Comment
