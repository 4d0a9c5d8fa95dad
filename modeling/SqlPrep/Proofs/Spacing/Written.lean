import SqlPrep.Spacing.Collapse

/-!
# The spacing scan one character at a time

The scan takes a doubled mark inside a quote in one move. It can be read without looking ahead: a
mark outside the other kind of quote always opens or closes its own kind, and a doubled mark closes
the quote and opens it again. Both readings put out the same text and end in the same state.

Read so, the scan of a text is the scan of its first part continued on the second, and folding the
blank runs of a folded text changes nothing.
-/

namespace SqlPrep.Spacing

open SqlPrep.Text

/-- The state after one character, where every mark opens or closes its kind of quote. -/
def ScanState.next (st : ScanState) (c : Char) : ScanState :=
  if c = '\'' ∧ !st.doubleQuote then
    { st with singleQuote := !st.singleQuote, afterSpace := false }
  else if c = '"' ∧ !st.singleQuote then
    { st with doubleQuote := !st.doubleQuote, afterSpace := false }
  else { st with afterSpace := isBlank c && !st.inQuote }

/-- What is put out at one character. -/
def ScanState.output (st : ScanState) (c : Char) : List Char :=
  if isBlank c && !st.inQuote then if st.afterSpace then [] else [' '] else [c]

/-- The state after a text. -/
def ScanState.afterText (st : ScanState) (text : List Char) : ScanState :=
  text.foldl ScanState.next st

/-- What is put out for a text. -/
def written (st : ScanState) : List Char → List Char
  | [] => []
  | c :: rest => st.output c ++ written (st.next c) rest

/-- The state after a character and a text is the state after the text from there. -/
@[simp] theorem afterText_cons (st : ScanState) (c : Char) (rest : List Char) :
    st.afterText (c :: rest) = (st.next c).afterText rest :=
  rfl

/-- The state after two texts is the state after the second from the state after the first. -/
theorem afterText_append (st : ScanState) (a b : List Char) :
    st.afterText (a ++ b) = (st.afterText a).afterText b :=
  List.foldl_append

/-- What is put out for two texts is what is put out for each in turn. -/
theorem written_append (st : ScanState) (a b : List Char) :
    written st (a ++ b) = written st a ++ written (st.afterText a) b := by
  induction a generalizing st with
  | nil => rfl
  | cons c a ih => rw [List.cons_append, written, written, ih, afterText_cons, List.append_assoc]

/-- A quote mark. -/
def isMark (c : Char) : Bool :=
  c == '\'' || c == '"'

/-- A quote mark is not blank. -/
theorem isMark_of_isBlank {c : Char} (hc : isBlank c = true) : isMark c = false := by
  refine Bool.eq_false_iff.mpr fun hmark => ?_
  rcases Bool.or_eq_true_iff.mp hmark with h | h <;> rw [eq_of_beq h] at hc <;> cases hc

/-- A character that is no mark leaves the quotes as they are. -/
theorem next_of_not_isMark {c : Char} (hc : isMark c = false) (st : ScanState) :
    st.next c = { st with afterSpace := isBlank c && !st.inQuote } := by
  obtain ⟨hsingle, hdouble⟩ := Bool.or_eq_false_iff.mp hc
  simp only [beq_eq_false_iff_ne] at hsingle hdouble
  rw [ScanState.next, if_neg (fun h => hsingle h.1), if_neg (fun h => hdouble h.1)]

/-- The quote flags of a state. -/
def ScanState.quotePart (st : ScanState) : ScanState :=
  { st with afterSpace := false }

/-- Which quotes a character opens or closes depends on the quotes before it only. -/
theorem quotePart_next {st st' : ScanState} (h : st.quotePart = st'.quotePart) (c : Char) :
    (st.next c).quotePart = (st'.next c).quotePart := by
  obtain ⟨single, double, space⟩ := st
  obtain ⟨single', double', space'⟩ := st'
  simp only [ScanState.quotePart, ScanState.mk.injEq, and_true] at h
  obtain ⟨rfl, rfl⟩ := h
  unfold ScanState.next
  split
  · rfl
  · split <;> rfl

/-- Which quotes a text opens or closes depends on the quotes before it only. -/
theorem quotePart_afterText {st st' : ScanState} (h : st.quotePart = st'.quotePart)
    (text : List Char) : (st.afterText text).quotePart = (st'.afterText text).quotePart := by
  induction text generalizing st st' with
  | nil => exact h
  | cons c rest ih => exact ih (quotePart_next h c)

/-- A text without marks leaves the quotes as they are. -/
theorem quotePart_afterText_of_not_isMark {text : List Char} (h : ∀ c ∈ text, isMark c = false)
    (st : ScanState) : (st.afterText text).quotePart = st.quotePart := by
  induction text generalizing st with
  | nil => rfl
  | cons c rest ih =>
    obtain ⟨hc, hrest⟩ := List.forall_mem_cons.mp h
    rw [afterText_cons, ih hrest, next_of_not_isMark hc]
    rfl

/-- A blank character outside quotes leaves a space behind and nothing else. -/
theorem next_of_loose {st : ScanState} {c : Char} (h : (isBlank c && !st.inQuote) = true) :
    st.next c = { st with afterSpace := true } := by
  rw [next_of_not_isMark (isMark_of_isBlank (Bool.and_eq_true_iff.mp h).1), h]

/-- A space has just been put out after a blank character outside quotes, and only there. -/
theorem afterSpace_next (st : ScanState) (c : Char) :
    (st.next c).afterSpace = (isBlank c && !st.inQuote) := by
  unfold ScanState.next
  split
  · next hmark => rw [hmark.1, show isBlank '\'' = false from rfl, Bool.false_and]
  · split
    · next hmark => rw [hmark.1, show isBlank '"' = false from rfl, Bool.false_and]
    · rfl

/-- A character that is not blank is put out as it is. -/
theorem output_of_not_isBlank {c : Char} (hc : isBlank c = false) (st : ScanState) :
    st.output c = [c] := by
  simp [ScanState.output, hc]

/-- A step at a mark puts out and leaves what reading its characters one by one does. -/
theorem quoteStep_eq {st toggled : ScanState} {c : Char} {inside : Bool} {rest : List Char}
    (hc : isMark c = true) (hnext : st.next c = { toggled with afterSpace := false })
    (hagain : inside = true →
      ({ toggled with afterSpace := false } : ScanState).next c = { st with afterSpace := false }) :
    (quoteStep st c inside toggled rest).emitted =
        written st (c :: rest.take (quoteStep st c inside toggled rest).doubled.toNat) ∧
      (quoteStep st c inside toggled rest).after =
        st.afterText (c :: rest.take (quoteStep st c inside toggled rest).doubled.toNat) := by
  have hblank : isBlank c = false := Bool.eq_false_iff.mpr fun h => by
    rw [isMark_of_isBlank h] at hc
    cases hc
  unfold quoteStep
  split
  · next hdoubled =>
    obtain ⟨tail, rfl⟩ := List.head?_eq_some_iff.mp hdoubled.2
    simp [written, ScanState.afterText, output_of_not_isBlank hblank, hnext, hagain hdoubled.1]
  · simp [written, ScanState.afterText, output_of_not_isBlank hblank, hnext]

/-- A step puts out and leaves what reading its characters one by one does. -/
theorem step_eq_written (st : ScanState) (c : Char) (rest : List Char) :
    (step st c rest).emitted = written st (c :: rest.take (step st c rest).doubled.toNat) ∧
      (step st c rest).after = st.afterText (c :: rest.take (step st c rest).doubled.toNat) := by
  unfold step
  split
  · next hmark =>
    refine quoteStep_eq (by simp [isMark, hmark.1]) (by rw [ScanState.next, if_pos hmark]) ?_
    intro hinside
    simp [ScanState.next, hmark.1, hinside, show st.doubleQuote = false by simpa using hmark.2]
  · next hsingle =>
    split
    · next hmark =>
      refine quoteStep_eq (by simp [isMark, hmark.1])
        (by rw [ScanState.next, if_neg hsingle, if_pos hmark]) ?_
      intro hinside
      simp [ScanState.next, hmark.1, hinside, show st.singleQuote = false by simpa using hmark.2]
    · next hdouble =>
      have hnext : st.next c = { st with afterSpace := isBlank c && !st.inQuote } := by
        rw [ScanState.next, if_neg hsingle, if_neg hdouble]
      split
      · next hblank =>
        unfold blankStep
        cases hquote : st.inQuote <;> cases hspace : st.afterSpace <;>
          simp [written, ScanState.afterText, ScanState.output, hnext, hblank, hquote, hspace]
        rw [← hspace]
      · next hblank =>
        simp [written, ScanState.afterText, ScanState.output, hnext, hblank]

/-- The scan puts out what reading one character at a time does, and ends in the same state. -/
theorem moves_eq_written (st : ScanState) (text : List Char) :
    emitted (moves st text) = written st text ∧
      endState st (moves st text) = st.afterText text := by
  fun_induction moves st text with
  | case1 => exact ⟨rfl, rfl⟩
  | case2 st c rest s extra ih =>
    obtain ⟨hemitted, hafter⟩ := step_eq_written st c rest
    have hcut : c :: rest = (c :: rest.take extra) ++ rest.drop extra := by
      rw [List.cons_append, List.take_append_drop]
    rw [hcut, written_append, afterText_append, ← hemitted, ← hafter]
    exact ⟨congrArg (s.emitted ++ ·) ih.1, ih.2⟩

/-- Folding blank runs, one character at a time. -/
theorem collapse_eq_written (text : List Char) : collapse text = written {} text :=
  (moves_eq_written {} text).1

/-- The folded text is what reading one character at a time puts out. -/
theorem toList_normalize (sql : String) : (normalize sql).toList = written {} sql.toList := by
  rw [normalize, String.toList_ofList, collapse_eq_written]

/-- Whatever is put out is a character of the text or a space. -/
theorem mem_written {st : ScanState} {text : List Char} {c : Char} (h : c ∈ written st text) :
    c ∈ text ∨ c = ' ' := by
  induction text generalizing st with
  | nil => cases h
  | cons d rest ih =>
    rw [written, List.mem_append] at h
    rcases h with hhere | hrest
    · unfold ScanState.output at hhere
      split at hhere
      · split at hhere
        · cases hhere
        · exact Or.inr (List.mem_singleton.mp hhere)
      · exact Or.inl (List.mem_cons.mpr (Or.inl (List.mem_singleton.mp hhere)))
    · exact (ih hrest).imp_left (List.mem_cons_of_mem d)

end SqlPrep.Spacing
