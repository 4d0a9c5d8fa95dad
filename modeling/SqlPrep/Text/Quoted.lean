import SqlPrep.Text.Digit
import SqlPrep.Text.Printable

/-!
# Quoted texts

A text between quote marks, as it is shown in messages. Single marks are preferred; double ones are
used when the text has single marks and no double ones. Characters that are not printable are
written by their code point, so a quoted text always stays on one line.
-/

namespace SqlPrep.Text

/-- The mark that a quoted text stands between. -/
def quoteMark (cs : List Char) : Char :=
  if '\'' ∈ cs ∧ '"' ∉ cs then '"' else '\''

/-- One character inside a quoted text. -/
def quotedChar (mark c : Char) : List Char :=
  if c = mark ∨ c = '\\' then ['\\', c]
  else if c = '\n' then ['\\', 'n']
  else if c = '\r' then ['\\', 'r']
  else if c = '\t' then ['\\', 't']
  else if isPrintable c then [c]
  else if c.toNat < 0x100 then ['\\', 'x'] ++ paddedDigits 16 2 c.toNat
  else if c.toNat < 0x10000 then ['\\', 'u'] ++ paddedDigits 16 4 c.toNat
  else ['\\', 'U'] ++ paddedDigits 16 8 c.toNat

/-- The text between quote marks, without the marks. -/
def quotedBody (cs : List Char) : List Char :=
  cs.flatMap (quotedChar (quoteMark cs))

/-- The text between quote marks. -/
def quoted (s : String) : String :=
  let cs := s.toList
  String.ofList ([quoteMark cs] ++ quotedBody cs ++ [quoteMark cs])

/-- The quoted text cut after a number of characters, for messages of limited length. -/
def quotedUpTo (limit : Nat) (s : String) : String :=
  String.ofList ((quoted s).toList.take limit)

end SqlPrep.Text
