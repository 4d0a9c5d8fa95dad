import SqlPrep.Yaml.Cursor

/-!
# Tags

The tag of a node says what kind of value it stands for. A plain scalar without a tag gets one by
its text: `implicit` decides whether it is written as a number, a truth value, a day and so on. A
line feed at the very end of a text does not count.
-/

namespace SqlPrep.Yaml

/-- The kind of value that a node stands for. -/
inductive Tag where
  | null
  | bool
  | int
  | float
  | timestamp
  | merge
  | value
  | str
  | binary
  | seq
  | map
  | set
  | omap
  | pairs
  | other (name : List Char)
  deriving DecidableEq

namespace Tag

/-- What the names of the standard tags start with. -/
def standard : String := "tag:yaml.org,2002:"

/-- The standard tags by the rest of their names. -/
def names : List (String × Tag) :=
  [("null", null), ("bool", bool), ("int", int), ("float", float), ("timestamp", timestamp),
    ("merge", merge), ("value", value), ("str", str), ("binary", binary), ("seq", seq),
    ("map", map), ("set", set), ("omap", omap), ("pairs", pairs)]

/-- The tag of a full name. -/
def ofName (name : List Char) : Tag :=
  if standard.toList.isPrefixOf name then
    match names.lookup (String.ofList (name.drop standard.length)) with
    | some t => t
    | none => other name
  else other name

/-- The short form in which a tag is written. -/
def shortForm (t : Tag) : List Char :=
  match t with
  | other name => "!<".toList ++ name ++ ['>']
  | _ =>
    match names.find? fun e => e.2 == t with
    | some (name, _) => "!!".toList ++ name.toList
    | none => []

/-! ## Scalars by their text -/

/-- A character of a row of digits that may hold underscores. -/
def isDigitOrLine (c : Char) : Bool :=
  c.isDigit || c == '_'

/-- The text without a sign in front. -/
def unsigned (cs : List Char) : List Char :=
  match cs with
  | '+' :: rest | '-' :: rest => rest
  | _ => cs

/-- The parts of a text between colons. -/
def splitColons : List Char → List (List Char)
  | [] => [[]]
  | c :: rest =>
    match splitColons rest with
    | [] => [[c]]
    | part :: parts => if c = ':' then [] :: part :: parts else (c :: part) :: parts

/-- Minutes or seconds: one digit, or two of which the first is below six. -/
def isSixtieth : List Char → Bool
  | [c] => c.isDigit
  | [c, d] => '0' ≤ c && c ≤ '5' && d.isDigit
  | _ => false

/-- A nonempty row of characters that all satisfy a test. -/
def isRowOf (test : Char → Bool) (cs : List Char) : Bool :=
  !cs.isEmpty && cs.all test

/-- A digit followed by digits and underscores. -/
def isDigitRow : List Char → Bool
  | c :: rest => c.isDigit && rest.all isDigitOrLine
  | [] => false

/-- Hours, minutes and seconds as a whole number, or the like: parts between colons. -/
def isSexagesimal (leading : List Char → Bool) (parts : List (List Char)) : Bool :=
  match parts with
  | first :: second :: rest => leading first && (second :: rest).all isSixtieth
  | _ => false

/-- A whole number in base 2, 8, 10, 16 or 60. -/
def isInt (cs : List Char) : Bool :=
  let body := unsigned cs
  match body with
  | ['0'] => true
  | '0' :: 'b' :: digits => isRowOf (fun c => c == '0' || c == '1' || c == '_') digits
  | '0' :: 'x' :: digits => isRowOf (fun c => (Text.hexValue? c).isSome || c == '_') digits
  | '0' :: digits => isRowOf (fun c => ('0' ≤ c && c ≤ '7') || c == '_') digits
  | _ =>
    let leading := fun part => isDigitRow part && part.head? != some '0'
    leading body || isSexagesimal leading (splitColons body)

/-- An exponent with a sign, or nothing. -/
def isExponent : List Char → Bool
  | [] => true
  | e :: sign :: digits =>
    (e == 'e' || e == 'E') && (sign == '+' || sign == '-') && isRowOf Char.isDigit digits
  | _ => false

/-- A number with a point and, perhaps, an exponent. Without digits in front of its point it has no
sign. -/
def isPointed (cs : List Char) : Bool :=
  match cs with
  | '.' :: c :: rest => c.isDigit && isExponent (rest.dropWhile isDigitOrLine)
  | _ =>
    let body := unsigned cs
    match body.dropWhile isDigitOrLine with
    | '.' :: rest =>
      isDigitRow (body.takeWhile isDigitOrLine) && isExponent (rest.dropWhile isDigitOrLine)
    | _ => false

/-- A number in base 60 with a point. -/
def isPointedSexagesimal (cs : List Char) : Bool :=
  let body := unsigned cs
  match body.dropWhile (· != '.') with
  | '.' :: rest =>
    rest.all isDigitOrLine && isSexagesimal isDigitRow (splitColons (body.takeWhile (· != '.')))
  | _ => false

/-- A number that is not whole. -/
def isFloat (cs : List Char) : Bool :=
  isPointed cs || isPointedSexagesimal cs ||
    [".inf", ".Inf", ".INF"].contains (String.ofList (unsigned cs)) ||
    [".nan", ".NaN", ".NAN"].contains (String.ofList cs)

/-- The words for truth values, in the spellings that a plain scalar may have. -/
def truthWords : List String :=
  ["yes", "Yes", "YES", "no", "No", "NO", "true", "True", "TRUE", "false", "False", "FALSE", "on",
    "On", "ON", "off", "Off", "OFF"]

/-- The words for the absent value. -/
def nullWords : List String := ["~", "null", "Null", "NULL"]

end Tag

/-! ## Days and moments by their text -/

/-- The fields of a day or moment as they are written. -/
structure WrittenTime where
  hour : Nat
  minute : Nat
  second : Nat
  fraction : List Char
  offset : Option Int

/-- The fields of a day, and of the time of day if there is one. -/
structure WrittenMoment where
  year : Nat
  month : Nat
  day : Nat
  time : Option WrittenTime

namespace WrittenMoment

/-- A number of at least `least` and at most `most` ASCII digits, and what follows it. -/
def number? (least most : Nat) (cs : List Char) : Option (Nat × List Char) :=
  let digits := (cs.take most).takeWhile Char.isDigit
  if digits.length < least then none
  else some (digits.foldl (fun n c => 10 * n + (c.toNat - 48)) 0, cs.drop digits.length)

/-- What follows a character. -/
def after? (c : Char) (cs : List Char) : Option (List Char) :=
  match cs with
  | d :: rest => if d = c then some rest else none
  | [] => none

/-- A space or tab. -/
def isSpace (c : Char) : Bool := c == ' ' || c == '\t'

/-- The offset at the end of a moment: none, `Z`, or signed hours with optional minutes. -/
def offset? (cs : List Char) : Option (Option Int) :=
  match cs with
  | [] => some none
  | _ =>
    match cs.dropWhile isSpace with
    | ['Z'] => some (some 0)
    | sign :: rest => do
      if sign ≠ '+' ∧ sign ≠ '-' then failure
      let (hours, rest) ← number? 1 2 rest
      let minutes ←
        match rest with
        | [] => some 0
        | _ => do
          let (minutes, rest) ← number? 2 2 (← after? ':' rest)
          if rest.isEmpty then some minutes else none
      let total : Int := (hours * 60 + minutes : Nat)
      return some (if sign = '-' then -total else total)
    | [] => none

/-- What separates a day from its time of day: a letter T or some spaces. -/
def afterSeparator? (cs : List Char) : Option (List Char) :=
  match cs with
  | 'T' :: rest | 't' :: rest => some rest
  | c :: _ => if isSpace c then some (cs.dropWhile isSpace) else none
  | [] => none

/-- The time of day with its fraction and offset. -/
def time? (cs : List Char) : Option WrittenTime := do
  let (hour, rest) ← number? 1 2 cs
  let (minute, rest) ← number? 2 2 (← after? ':' rest)
  let (second, rest) ← number? 2 2 (← after? ':' rest)
  let (fraction, rest) :=
    match rest with
    | '.' :: rest => (rest.takeWhile Char.isDigit, rest.dropWhile Char.isDigit)
    | _ => ([], rest)
  return ⟨hour, minute, second, fraction, ← offset? rest⟩

/-- The fields of a text that is written as a day or a moment. -/
def ofText? (cs : List Char) : Option WrittenMoment := do
  let (year, rest) ← number? 4 4 cs
  let (month, rest) ← number? 1 2 (← after? '-' rest)
  let (day, rest) ← number? 1 2 (← after? '-' rest)
  match rest with
  | [] => return ⟨year, month, day, none⟩
  | _ => return ⟨year, month, day, some (← time? (← afterSeparator? rest))⟩

end WrittenMoment

namespace Tag

/-- A day with all its digits, or a moment. -/
def isTimestamp (cs : List Char) : Bool :=
  match WrittenMoment.ofText? cs with
  | some m => m.time.isSome || cs.length == 10
  | none => false

/-- A text without the line feed at its end. -/
def chomp (cs : List Char) : List Char :=
  if cs.getLast? = some '\n' then cs.dropLast else cs

/-- The tag of a plain scalar. -/
def implicit (text : List Char) : Tag :=
  let cs := chomp text
  let word := String.ofList cs
  if text.isEmpty then null
  else if cs.isEmpty then str
  else if truthWords.contains word then bool
  else if nullWords.contains word then null
  else if isFloat cs then float
  else if isInt cs then int
  else if word = "<<" then merge
  else if isTimestamp cs then timestamp
  else if word = "=" then value
  else if ["!", "&", "*"].contains word then other "tag:yaml.org,2002:yaml".toList
  else str

end Tag
end SqlPrep.Yaml
