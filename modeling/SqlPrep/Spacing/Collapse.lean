import SqlPrep.Spacing.ScanState
import SqlPrep.Text.Blank

/-!
# Folding blank runs

Replaces every run of blank characters outside quotes by one space. Only single and double quote
marks open a quote here, and a doubled mark inside one is content; dollar quotes and comments are
ordinary text.
-/

namespace SqlPrep.Spacing

open SqlPrep.Text

/-- What the scan does at one character: whether it takes the next one too, what it puts out, and
the state it goes on in. -/
structure Step where
  doubled : Bool
  emitted : List Char
  after : ScanState
  deriving DecidableEq

/-- The step at a quote mark that is outside the other kind of quote: a mark that is doubled inside
its own kind of quote is content, any other opens or closes the quote. -/
def quoteStep (st : ScanState) (c : Char) (inside : Bool) (toggled : ScanState)
    (rest : List Char) : Step :=
  if inside ∧ rest.head? = some c then ⟨true, [c, c], { st with afterSpace := false }⟩
  else ⟨false, [c], { toggled with afterSpace := false }⟩

/-- The step at a blank character: kept inside a quote, the first of its run folded to a space
outside. -/
def blankStep (st : ScanState) (c : Char) : Step :=
  if st.inQuote then ⟨false, [c], { st with afterSpace := false }⟩
  else if st.afterSpace then ⟨false, [], st⟩
  else ⟨false, [' '], { st with afterSpace := true }⟩

/-- The step of the scan at a character, with the text that follows it. -/
def step (st : ScanState) (c : Char) (rest : List Char) : Step :=
  if c = '\'' ∧ !st.doubleQuote then
    quoteStep st c st.singleQuote { st with singleQuote := !st.singleQuote } rest
  else if c = '"' ∧ !st.singleQuote then
    quoteStep st c st.doubleQuote { st with doubleQuote := !st.doubleQuote } rest
  else if isBlank c then blankStep st c
  else ⟨false, [c], { st with afterSpace := false }⟩

/-- One move of the scan: the characters that it takes, what it puts out for them, and the state
after it. -/
structure Move where
  taken : List Char
  emitted : List Char
  after : ScanState
  deriving DecidableEq

/-- The moves of the scan of a text from a state. -/
def moves (st : ScanState) : List Char → List Move
  | [] => []
  | c :: rest =>
    let s := step st c rest
    let extra := s.doubled.toNat
    ⟨c :: rest.take extra, s.emitted, s.after⟩ :: moves s.after (rest.drop extra)
termination_by text => text.length
decreasing_by simp only [List.length_drop, List.length_cons]; omega

/-- What moves put out together. -/
def emitted (ms : List Move) : List Char :=
  ms.flatMap Move.emitted

/-- The state after moves that start in a state. -/
def endState (st : ScanState) : List Move → ScanState
  | [] => st
  | m :: ms => endState m.after ms

/-- A move with the fault of the state that it leads to. -/
abbrev AuditedMove := Move × Option StateFault

/-- The moves up to the first that leads to a faulty state. -/
def audit : List Move → List AuditedMove
  | [] => []
  | m :: ms =>
    match m.after.fault? with
    | none => (m, none) :: audit ms
    | some fault => [(m, some fault)]

/-- A text with every blank run outside quotes folded to one space. -/
def collapse (sql : List Char) : List Char :=
  emitted (moves {} sql)

/-- The text with every blank run outside quotes folded to one space. -/
def normalize (sql : String) : String :=
  String.ofList (collapse sql.toList)

end SqlPrep.Spacing
