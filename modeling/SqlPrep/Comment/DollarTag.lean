/-!
# Dollar-quote delimiters

A dollar-quoted text stands between two equal delimiters `$tag$`. The tag is any row of ASCII
letters, digits and underscores, and may be empty. `tagAfter?` reads the rest of a delimiter after
its first dollar sign; the other functions place it in a text.
-/

namespace SqlPrep.Comment

/-- A character of a dollar tag. -/
def isTagChar (c : Char) : Bool :=
  c.isAlphanum || c == '_'

/-- The tag at the start of a text whose dollar sign has just been read. -/
def tagAfter? : List Char → Option (List Char)
  | [] => none
  | c :: rest =>
    if c = '$' then some []
    else if isTagChar c then (tagAfter? rest).map (c :: ·)
    else none

/-- The tag of the delimiter at the start of a text. -/
def tagAt? : List Char → Option (List Char)
  | '$' :: rest => tagAfter? rest
  | _ => none

/-- The delimiter with a tag. -/
def delimiter (tag : List Char) : List Char :=
  '$' :: tag ++ ['$']

/-- A delimiter read in a text: its tag, and its length with both dollar signs. -/
structure Delimiter where
  tag : List Char
  length : Nat
  deriving DecidableEq

/-- The delimiter at a position of a text. -/
def delimiterAt? (sql : List Char) (index : Nat) : Option Delimiter :=
  (tagAt? (sql.drop index)).map fun tag => ⟨tag, tag.length + 2⟩

/-- The part of a text between two positions, which count from the end when negative. -/
def between (sql : List Char) (first last : Int) : List Char :=
  let place (i : Int) : Nat := (if i < 0 then i + sql.length else i).toNat
  (sql.drop (place first)).take (place last - place first)

/-- The text seen from a position. From one that counts from the end, the text follows once more
after its own end. -/
def viewFrom (sql : List Char) (index : Int) : List Char :=
  if index < 0 then sql.drop (sql.length - index.natAbs) ++ sql else sql.drop index.toNat

/-- Whether a position that counts from the end lies before the start of the text. -/
def beforeStart (sql : List Char) (index : Int) : Bool :=
  index + sql.length < 0

/-- The delimiter at a position that may count from the end. One that goes on past the end, at the
start of the text, has as its tag only what lies between the two positions. -/
def delimiterSeen? (sql : List Char) (index : Int) : Option Delimiter :=
  (tagAt? (viewFrom sql index)).map fun tag =>
    ⟨between sql (index + 1) (index + 1 + tag.length), tag.length + 2⟩

end SqlPrep.Comment
