/-!
# The state of a comment scan

What a scan for comments remembers between two characters: which kind of quoted text or comment it
is inside, the tag of an open dollar quote, and whether a backslash still shields the next
character. The flags are independent; `fault?` names the first rule that a combination breaks.
-/

namespace SqlPrep.Comment

/-- The state of a scan for comments. -/
structure ScanState where
  singleQuote : Bool := false
  doubleQuote : Bool := false
  dollarQuote : Bool := false
  tag : Option (List Char) := none
  lineComment : Bool := false
  blockComment : Bool := false
  escapePending : Bool := false
  deriving DecidableEq, Inhabited

/-- The rule that a state breaks. -/
inductive StateFault where
  | quoteKinds
  | commentKinds
  | commentInQuote
  | dollarTag
  deriving DecidableEq

/-- The wording of each broken rule. -/
def StateFault.message : StateFault → String
  | .quoteKinds => "quote kinds overlap"
  | .commentKinds => "comment kinds overlap"
  | .commentInQuote => "comment opened inside a quote"
  | .dollarTag => "dollar tag out of sync"

/-- What a text can end inside of. -/
inductive Construct where
  | blockComment
  | lineComment
  | dollarQuote (tag : Option (List Char))
  | singleQuote
  | doubleQuote
  deriving DecidableEq

/-- The name of a construct. A dollar quote is named with its tag. -/
def Construct.name : Construct → String
  | .blockComment => "block comment"
  | .lineComment => "line comment"
  | .dollarQuote tag =>
    let text := match tag with
      | some cs => String.ofList cs
      | none => "None"
    s!"dollar quote (${text}$)"
  | .singleQuote => "single-quoted string"
  | .doubleQuote => "double-quoted identifier"

namespace ScanState

/-- Inside quoted text of any kind. -/
def inQuote (st : ScanState) : Bool :=
  st.singleQuote || st.doubleQuote || st.dollarQuote

/-- Inside a comment of any kind. -/
def inComment (st : ScanState) : Bool :=
  st.lineComment || st.blockComment

/-- The number of quote kinds that are open. -/
def quoteCount (st : ScanState) : Nat :=
  st.singleQuote.toNat + st.doubleQuote.toNat + st.dollarQuote.toNat

/-- The first rule that a state breaks: at most one kind of quote, at most one kind of comment, no
comment inside a quote, and a tag exactly for an open dollar quote. -/
def fault? (st : ScanState) : Option StateFault :=
  if 1 < st.quoteCount then some .quoteKinds
  else if st.lineComment && st.blockComment then some .commentKinds
  else if st.inQuote && st.inComment then some .commentInQuote
  else if st.dollarQuote != st.tag.isSome then some .dollarTag
  else none

/-- The construct that is open, for a state inside a quote or comment. -/
def openConstruct (st : ScanState) : Construct :=
  if st.blockComment then .blockComment
  else if st.lineComment then .lineComment
  else if st.dollarQuote then .dollarQuote st.tag
  else if st.singleQuote then .singleQuote
  else .doubleQuote

/-- What a text that ends in this state leaves open. -/
def unterminated? (st : ScanState) : Option Construct :=
  if st.inComment || st.inQuote then some st.openConstruct else none

end ScanState
end SqlPrep.Comment
