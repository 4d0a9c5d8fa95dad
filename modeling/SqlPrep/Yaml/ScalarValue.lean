import SqlPrep.Number.Reading
import SqlPrep.Text.Base64
import SqlPrep.Value.Basic
import SqlPrep.Yaml.Tag

/-!
# Values of scalars

The value that a scalar denotes under each tag. The text need not have the form that gives a plain
scalar its tag: a tag can be written out in front of any text, and then the text may denote nothing.
-/

namespace SqlPrep.Yaml.ScalarValue

open Number Text

/-- A text without its underscores. -/
def withoutLines (cs : List Char) : List Char :=
  cs.filter (· != '_')

/-- The truth value that a word stands for, in any case. -/
def truth (text : List Char) : Except ReadError Value :=
  let word := String.ofList (lower text)
  if ["yes", "true", "on"].contains word then .ok (.bool true)
  else if ["no", "false", "off"].contains word then .ok (.bool false)
  else .error (.truth word)

/-- The integer that a text denotes in a base. -/
def integerIn (base : Nat) (cs : List Char) : Except ReadError Int :=
  match readInt? base cs with
  | none => .error (.integer base (String.ofList cs))
  | some n =>
    if base = 10 ∧ longestInteger < writtenDigits cs then
      .error (.integerLength (writtenDigits cs))
    else .ok n

/-- Digits in base 60, the most significant first, as one number. -/
def sexagesimal (digits : List Int) : Int :=
  digits.foldl (fun n d => 60 * n + d) 0

/-- The size of the integer that a text without sign denotes. -/
def magnitude (body : List Char) : Except ReadError Int :=
  match body with
  | [] => .error .emptyNumber
  | ['0'] => .ok 0
  | '0' :: 'b' :: digits => integerIn 2 digits
  | '0' :: 'x' :: digits => integerIn 16 digits
  | '0' :: _ => integerIn 8 body
  | _ =>
    if body.contains ':' then
      return sexagesimal (← (Tag.splitColons body).mapM (integerIn 10))
    else integerIn 10 body

/-- The integer that a text denotes. -/
def integer (text : List Char) : Except ReadError Value := do
  let cs := withoutLines text
  if cs.isEmpty then throw .emptyNumber
  let n ← magnitude (Tag.unsigned cs)
  return .int (if cs.head? = some '-' then -n else n)

/-- The double that a text denotes. -/
def doubleOf (cs : List Char) : Except ReadError Binary64 :=
  match readDouble? cs with
  | some x => .ok x
  | none => .error (.double (String.ofList cs))

/-- Digits in base 60, the least significant first, added up from a place value on. -/
def addSexagesimal (total : Binary64) (place : Nat) :
    List Binary64 → Except ReadError Binary64
  | [] => .ok total
  | d :: rest =>
    match Binary64.ofInt place with
    | .infinite _ => .error .doubleRange
    | factor => addSexagesimal (total.add (d.mul factor)) (60 * place) rest

/-- The size of the double that a text in lower case and without sign denotes. -/
def doubleMagnitude (body : List Char) : Except ReadError Binary64 :=
  if body = ".inf".toList then .ok (.infinite false)
  else if body = ".nan".toList then .ok .nan
  else if body.contains ':' then do
    let digits ← (Tag.splitColons body).mapM doubleOf
    addSexagesimal (.zero false) 1 digits.reverse
  else doubleOf body

/-- The double that a text denotes. -/
def double (text : List Char) : Except ReadError Value := do
  let cs := lower (withoutLines text)
  if cs.isEmpty then throw .emptyNumber
  let x ← doubleMagnitude (Tag.unsigned cs)
  return .float (if cs.head? = some '-' then x.neg else x)

/-- The microseconds of a fraction of a second. Digits after the sixth are dropped. -/
def microseconds (fraction : List Char) : Nat :=
  let digits := fraction.take 6
  (digits ++ List.replicate (6 - digits.length) '0').foldl
    (fun n c => 10 * n + (c.toNat - 48)) 0

/-- The day or moment that a text denotes. -/
def time (text : List Char) : Except ReadError Value :=
  match WrittenMoment.ofText? (Tag.chomp text) with
  | none => .error .timestamp
  | some m =>
    match m.time with
    | none => ((Day.ofFields m.year m.month m.day).map .day).mapError .calendar
    | some t =>
      ((Moment.ofFields m.year m.month m.day t.hour t.minute t.second (microseconds t.fraction)
        t.offset).map .moment).mapError .calendar

/-- The bytes that a text denotes. -/
def binary (text : List Char) : Except ReadError Value :=
  if text.all (·.toNat < 128) then
    match Base64.decode text with
    | some bytes => .ok (.bytes bytes)
    | none => .error (.malformed .binaryText)
  else .error (.malformed .binaryText)

end SqlPrep.Yaml.ScalarValue
