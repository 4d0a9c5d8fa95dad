import SqlPrep.Proofs.Spacing.BlankRuns

/-!
# Folding as a canonical form

Two texts are folded to the same text exactly when they differ in nothing but the content of their
blank runs outside quotes. One direction needs that a gap is always filled in the same way. The
other needs that the gaps can be found again in the folded text, where a space may also stand in
quotes: reading the folded text opens and closes the same quotes, so it has the outline of the text
itself.
-/

namespace SqlPrep.Spacing

open SqlPrep.Text

/-- What was put out is read with the gaps and characters of the text. -/
theorem outlineFrom_written (st : ScanState) (text : List Char) :
    outlineFrom st (written st text) = outlineFrom st text := by
  induction text generalizing st with
  | nil => rfl
  | cons c rest ih =>
    rw [written, outlineFrom_cons st c rest, ScanState.output]
    by_cases hfold : (isBlank c && !st.inQuote) = true
    · rw [if_pos hfold, if_pos hfold, next_of_loose hfold]
      cases hspace : st.afterSpace with
      | true =>
        have hsame : ({ st with afterSpace := true } : ScanState) = st := by rw [← hspace]
        rw [if_pos rfl, if_pos rfl, List.nil_append, List.nil_append, hsame, ih]
      | false =>
        -- The space is blank too, and leads to the state that the blank character leads to.
        have hspaceLoose : (isBlank ' ' && !st.inQuote) = true :=
          Bool.and_eq_true_iff.mpr ⟨rfl, (Bool.and_eq_true_iff.mp hfold).2⟩
        rw [if_neg Bool.false_ne_true, if_neg Bool.false_ne_true, List.singleton_append,
          outlineFrom_cons, if_pos hspaceLoose, next_of_loose hspaceLoose, hspace,
          if_neg Bool.false_ne_true, ih]
    · rw [if_neg hfold, if_neg hfold, List.singleton_append, outlineFrom_cons, if_neg hfold, ih]

/-- What was put out is put out again for itself. -/
theorem written_written (st : ScanState) (text : List Char) :
    written st (written st text) = written st text := by
  rw [written_eq_outlineFrom, outlineFrom_written, ← written_eq_outlineFrom]

/-- Folding blank runs twice folds nothing more. -/
theorem collapse_collapse (text : List Char) : collapse (collapse text) = collapse text := by
  rw [collapse_eq_written, collapse_eq_written, written_written]

/-- No more is put out than is read. -/
theorem length_written_le (st : ScanState) (text : List Char) :
    (written st text).length ≤ text.length := by
  induction text generalizing st with
  | nil => exact Nat.le_refl 0
  | cons c rest ih =>
    have houtput : (st.output c).length ≤ 1 := by
      unfold ScanState.output
      split
      · split <;> simp
      · simp
    have hrest := ih (st.next c)
    rw [written, List.length_append, List.length_cons]
    omega

/-- Every character that is not blank is put out, and no other such character. -/
theorem filter_written (st : ScanState) (text : List Char) :
    (written st text).filter (!isBlank ·) = text.filter (!isBlank ·) := by
  induction text generalizing st with
  | nil => rfl
  | cons c rest ih =>
    rw [written, List.filter_append, ih, ScanState.output]
    split
    · next hfold =>
      have hblank : (!isBlank c) = false := by
        rw [(Bool.and_eq_true_iff.mp hfold).1, Bool.not_true]
      rw [List.filter_cons, hblank, if_neg Bool.false_ne_true]
      split <;> rfl
    · exact (List.filter_append [c] rest).symm

/-- The characters of a text, each with the quotes that are open when the spacing scan stands at
it. -/
def scanned (sql : String) : List SeenChar :=
  seen {} (moves {} sql.toList)

/-- The outline of a text as the spacing scan sees it is the outline of the text read one character
at a time. -/
theorem outline_scanned (sql : String) : outline (scanned sql) = outlineFrom {} sql.toList :=
  (outline_congr (seen_moves_agrees {} sql.toList)).symm

/-- Folding is a canonical form: two texts are folded to the same text if and only if they are the
same once the content of every maximal blank run outside quotes is forgotten. It is idempotent,
makes no text longer, and leaves the characters that are not blank as they are. -/
theorem normalize_eq_iff_outline_eq (a b : String) :
    (normalize a = normalize b ↔ outline (scanned a) = outline (scanned b)) ∧
      normalize (normalize a) = normalize a ∧ (normalize a).length ≤ a.length ∧
      (normalize a).toList.filter (!isBlank ·) = a.toList.filter (!isBlank ·) := by
  refine ⟨?_, ?_, ?_, ?_⟩
  · rw [outline_scanned, outline_scanned, ← String.toList_inj, toList_normalize, toList_normalize]
    constructor
    · intro h
      rw [← outlineFrom_written, h, outlineFrom_written]
    · intro h
      rw [written_eq_outlineFrom, h, ← written_eq_outlineFrom]
  · rw [← String.toList_inj, toList_normalize, toList_normalize, written_written]
  · rw [← String.length_toList, ← String.length_toList, toList_normalize]
    exact length_written_le {} a.toList
  · rw [toList_normalize, filter_written]

/-- Only the runs outside quotes are gaps. -/
example : outline (scanned "a \t' '") = [some 'a', none, some '\'', some ' ', some '\''] := by
  decide +kernel

end SqlPrep.Spacing
