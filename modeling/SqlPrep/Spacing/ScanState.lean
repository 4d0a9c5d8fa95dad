/-!
# The state of a spacing scan

What the scan that folds blank runs remembers between two characters: which of the two quote marks
is open, and whether it has just put out the space of a blank run.
-/

namespace SqlPrep.Spacing

/-- The state of a spacing scan. -/
structure ScanState where
  singleQuote : Bool := false
  doubleQuote : Bool := false
  afterSpace : Bool := false
  deriving DecidableEq, Inhabited

/-- The rule that a state breaks. -/
inductive StateFault where
  | quoteKinds
  deriving DecidableEq

/-- The wording of the broken rule. -/
def StateFault.message : StateFault → String
  | .quoteKinds => "quote kinds overlap"

namespace ScanState

/-- Inside quoted text. -/
def inQuote (st : ScanState) : Bool :=
  st.singleQuote || st.doubleQuote

/-- The rule that a state breaks: only one kind of quote is open at a time. -/
def fault? (st : ScanState) : Option StateFault :=
  if st.singleQuote && st.doubleQuote then some .quoteKinds else none

end ScanState
end SqlPrep.Spacing
