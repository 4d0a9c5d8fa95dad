import SqlPrep.Number.Shortest
import SqlPrep.Text.Quoted
import SqlPrep.Value.Basic

/-!
# Values in messages

The text of a value as a message shows it. Texts are quoted, also inside lists and mappings; a value
shown on its own (`plain`) is a text or a choice without quotes, or a day or moment as it is written.
An integer of too many digits has no text, and neither has a value that holds one.
-/

namespace SqlPrep

/-- A day as a message shows it. -/
def Day.shown (d : Day) : String :=
  s!"datetime.date({d.year}, {d.month}, {d.day})"

/-- A moment as a message shows it. Seconds and microseconds are left out when they are zero. -/
def Moment.shown (m : Moment) : String :=
  let seconds := if m.micro ≠ 0 then [m.second, m.micro] else if m.second ≠ 0 then [m.second] else []
  let fields := [m.date.year, m.date.month, m.date.day, m.hour, m.minute] ++ seconds
  let zone := match m.offset with
    | none => []
    | some minutes =>
      if minutes = 0 then ["tzinfo=datetime.timezone.utc"]
      else [s!"tzinfo=datetime.timezone({CalendarError.spanText minutes})"]
  "datetime.datetime(" ++ String.intercalate ", " (fields.map toString ++ zone) ++ ")"

namespace Value

/-- Bytes as a message shows them: the ASCII ones as characters. -/
def bytesShown (bytes : List UInt8) : String :=
  let cs := bytes.map fun b => Char.ofNat b.toNat
  let mark := Text.quoteMark cs
  let body := cs.flatMap fun c =>
    if c.toNat < 0x80 then Text.quotedChar mark c
    else ['\\', 'x'] ++ Text.paddedDigits 16 2 c.toNat
  String.ofList (['b', mark] ++ body ++ [mark])

mutual

/-- A value as a message shows it. -/
def shown : Value → String
  | .null => "None"
  | .bool b => if b then "True" else "False"
  | .int n => toString n
  | .float x => x.text
  | .str s => Text.quoted s
  | .choice c => "<" ++ c.label ++ ": " ++ Text.quoted c.keyword ++ ">"
  | .list items => "[" ++ String.intercalate ", " (shownAll items) ++ "]"
  | .map entries => "\x7b" ++ String.intercalate ", " (shownEntries entries) ++ "\x7d"
  | .day d => d.shown
  | .moment m => m.shown
  | .bytes b => bytesShown b
  | .set [] => "set()"
  | .set items => "\x7b" ++ String.intercalate ", " (shownAll items) ++ "\x7d"
  | .tuple [v] => "(" ++ v.shown ++ ",)"
  | .tuple items => "(" ++ String.intercalate ", " (shownAll items) ++ ")"

/-- The members of a list, each as a message shows it. -/
def shownAll : List Value → List String
  | [] => []
  | v :: rest => v.shown :: shownAll rest

/-- The entries of a mapping, each as a message shows it. -/
def shownEntries : List (Value × Value) → List String
  | [] => []
  | (k, v) :: rest => (k.shown ++ ": " ++ v.shown) :: shownEntries rest

end

/-- A value on its own, without quotes around a text. -/
def plain : Value → String
  | .str s => s
  | .choice c => c.label
  | .day d => d.text
  | .moment m => m.text ' '
  | v => v.shown

mutual

/-- Whether a value has a text: all integers in it have few enough digits. -/
def isWritable : Value → Bool
  | .int n => decide (n.natAbs < Number.power 10 Text.longestInteger)
  | .list items | .set items | .tuple items => allWritable items
  | .map entries => entriesWritable entries
  | _ => true

/-- Whether all of some values have a text. -/
def allWritable : List Value → Bool
  | [] => true
  | v :: rest => v.isWritable && allWritable rest

/-- Whether all keys and values of some entries have a text. -/
def entriesWritable : List (Value × Value) → Bool
  | [] => true
  | (k, v) :: rest => k.isWritable && v.isWritable && entriesWritable rest

end

/-- The wording where an integer of too many digits would have to be written. -/
def unwritableMessage : String :=
  "Exceeds the limit (4300 digits) for integer string conversion; " ++
    "use sys.set_int_max_str_digits() to increase the limit"

end Value
end SqlPrep
