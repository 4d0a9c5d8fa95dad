import Mathlib.Data.List.Forall2
import SqlPrep.Proofs.Spacing.Written

/-!
# Blank runs outside quotes

What folding does to a text, said without a scan: each character is given with the quotes that are
open at it, and every maximal run of blank characters outside quotes becomes one space. The spacing
scan does this with the quotes that it sees itself, and so with those of any other reading of the
text that sees the same quotes open at every character but the marks.
-/

namespace SqlPrep

open SqlPrep.Text

/-- A character, and which quotes are open for a scan that stands at it. -/
structure SeenChar where
  char : Char
  singleQuote : Bool
  doubleQuote : Bool
  deriving DecidableEq

/-- A blank character outside single and double quotes. -/
def SeenChar.loose (s : SeenChar) : Bool :=
  isBlank s.char && !(s.singleQuote || s.doubleQuote)

/-- The text with its blank runs outside quotes forgotten: every maximal run is only a gap. -/
def outline : List SeenChar → List (Option Char)
  | [] => []
  | s :: rest =>
    if s.loose then none :: outline (rest.dropWhile SeenChar.loose)
    else some s.char :: outline rest
termination_by seen => seen.length
decreasing_by
  · have := (List.dropWhile_suffix SeenChar.loose (l := rest)).length_le
    simp only [List.length_cons]
    omega
  · simp

/-- The text with one space for every maximal run of blank characters outside quotes. -/
def foldBlankRuns : List SeenChar → List Char
  | [] => []
  | s :: rest =>
    if s.loose then ' ' :: foldBlankRuns (rest.dropWhile SeenChar.loose)
    else s.char :: foldBlankRuns rest
termination_by seen => seen.length
decreasing_by
  · have := (List.dropWhile_suffix SeenChar.loose (l := rest)).length_le
    simp only [List.length_cons]
    omega
  · simp

/-- Two readings of one character: the same quotes are open, unless it is itself a mark. -/
def SeenChar.Agrees (s t : SeenChar) : Prop :=
  s.char = t.char ∧
    (Spacing.isMark s.char = false →
      s.singleQuote = t.singleQuote ∧ s.doubleQuote = t.doubleQuote)

/-- Readings of a text that agree with a third one agree. -/
theorem agrees_trans {xs ys zs : List SeenChar} (h : List.Forall₂ SeenChar.Agrees xs ys)
    (h' : List.Forall₂ SeenChar.Agrees ys zs) : List.Forall₂ SeenChar.Agrees xs zs := by
  induction h generalizing zs with
  | nil => exact h'
  | cons hhead _ ih =>
    cases h' with
    | cons hhead' htail' =>
      refine List.Forall₂.cons ⟨hhead.1.trans hhead'.1, fun hmark => ?_⟩ (ih htail')
      obtain ⟨hsingle, hdouble⟩ := hhead.2 hmark
      obtain ⟨hsingle', hdouble'⟩ := hhead'.2 (hhead.1 ▸ hmark)
      exact ⟨hsingle.trans hsingle', hdouble.trans hdouble'⟩

/-- Readings that agree find the same blank characters outside quotes. -/
theorem SeenChar.Agrees.loose_eq {s t : SeenChar} (h : s.Agrees t) : s.loose = t.loose := by
  rw [SeenChar.loose, SeenChar.loose, ← h.1]
  cases hblank : isBlank s.char with
  | false => rw [Bool.false_and, Bool.false_and]
  | true =>
    obtain ⟨hsingle, hdouble⟩ := h.2 (Spacing.isMark_of_isBlank hblank)
    rw [hsingle, hdouble]

/-- Readings that agree still do after the first run of blank characters outside quotes. -/
theorem agrees_dropWhile {xs ys : List SeenChar} (h : List.Forall₂ SeenChar.Agrees xs ys) :
    List.Forall₂ SeenChar.Agrees (xs.dropWhile SeenChar.loose) (ys.dropWhile SeenChar.loose) := by
  induction h with
  | nil => exact List.Forall₂.nil
  | @cons s t xs ys hhead htail ih =>
    rw [List.dropWhile_cons, List.dropWhile_cons, ← hhead.loose_eq]
    split
    · exact ih
    · exact List.Forall₂.cons hhead htail

/-- Readings that agree have the same outline. -/
theorem outline_congr {xs ys : List SeenChar} (h : List.Forall₂ SeenChar.Agrees xs ys) :
    outline xs = outline ys := by
  fun_induction outline xs generalizing ys with
  | case1 =>
    cases h
    rw [outline]
  | case2 s rest hloose ih =>
    cases h with
    | cons hhead htail => rw [outline, ← hhead.loose_eq, if_pos hloose, ih (agrees_dropWhile htail)]
  | case3 s rest hloose ih =>
    cases h with
    | cons hhead htail => rw [outline, ← hhead.loose_eq, if_neg hloose, ih htail, hhead.1]

/-- Folding puts a space into every gap of the outline. -/
theorem foldBlankRuns_eq_outline (seen : List SeenChar) :
    foldBlankRuns seen = (outline seen).map (·.getD ' ') := by
  fun_induction outline seen with
  | case1 => rw [foldBlankRuns, List.map_nil]
  | case2 s rest hloose ih => rw [foldBlankRuns, if_pos hloose, ih, List.map_cons, Option.getD_none]
  | case3 s rest hloose ih => rw [foldBlankRuns, if_neg hloose, ih, List.map_cons, Option.getD_some]

namespace Spacing

/-- The characters that moves take, each with the quotes that are open before its move. -/
def seen (st : ScanState) : List Move → List SeenChar
  | [] => []
  | m :: ms => m.taken.map (⟨·, st.singleQuote, st.doubleQuote⟩) ++ seen m.after ms

/-- The characters of a text, each with the quotes that are open when every mark opens or closes
one. -/
def seenFrom (st : ScanState) : List Char → List SeenChar
  | [] => []
  | c :: rest => ⟨c, st.singleQuote, st.doubleQuote⟩ :: seenFrom (st.next c) rest

/-- The characters of two texts are seen in turn. -/
theorem seenFrom_append (st : ScanState) (a b : List Char) :
    seenFrom st (a ++ b) = seenFrom st a ++ seenFrom (st.afterText a) b := by
  induction a generalizing st with
  | nil => rfl
  | cons c a ih => rw [List.cons_append, seenFrom, seenFrom, ih, afterText_cons, List.cons_append]

/-- A step takes a second character only if that is the same mark. -/
theorem doubled_step {st : ScanState} {c : Char} {rest : List Char}
    (h : (step st c rest).doubled = true) : isMark c = true ∧ rest.head? = some c := by
  have hquote {inside : Bool} {toggled : ScanState}
      (h : (quoteStep st c inside toggled rest).doubled = true) : rest.head? = some c := by
    unfold quoteStep at h
    split at h
    · next hdoubled => exact hdoubled.2
    · cases h
  unfold step at h
  split at h
  · next hmark => exact ⟨by simp [isMark, hmark.1], hquote h⟩
  · split at h
    · next hmark => exact ⟨by simp [isMark, hmark.1], hquote h⟩
    · split at h
      · unfold blankStep at h
        split at h
        · cases h
        · split at h <;> cases h
      · cases h

/-- The scan sees the quotes that reading one mark at a time does, but for the second of two doubled
marks. -/
theorem seen_moves_agrees (st : ScanState) (text : List Char) :
    List.Forall₂ SeenChar.Agrees (seenFrom st text) (seen st (moves st text)) := by
  fun_induction moves st text with
  | case1 => exact List.Forall₂.nil
  | case2 st c rest s extra ih =>
    have hafter : s.after = st.afterText (c :: rest.take extra) := (step_eq_written st c rest).2
    have hcut : c :: rest = (c :: rest.take extra) ++ rest.drop extra := by
      rw [List.cons_append, List.take_append_drop]
    have hhead : List.Forall₂ SeenChar.Agrees
        (seenFrom st (c :: rest.take extra))
        ((c :: rest.take extra).map (⟨·, st.singleQuote, st.doubleQuote⟩)) := by
      refine List.Forall₂.cons ⟨rfl, fun _ => ⟨rfl, rfl⟩⟩ ?_
      cases hdoubled : s.doubled with
      | false =>
        have hextra : extra = 0 := congrArg Bool.toNat hdoubled
        rw [hextra]
        exact List.Forall₂.nil
      | true =>
        obtain ⟨hmark, hnext⟩ := doubled_step hdoubled
        obtain ⟨tail, rfl⟩ := List.head?_eq_some_iff.mp hnext
        have hextra : extra = 1 := congrArg Bool.toNat hdoubled
        rw [hextra]
        refine List.Forall₂.cons ⟨rfl, fun hplain => ?_⟩ List.Forall₂.nil
        rw [hmark] at hplain
        cases hplain
    rw [hcut, seenFrom_append, ← hafter, seen]
    exact List.rel_append hhead ih

/-- The outline of a text that is read from a state, without the run that a space has already been
put out for. -/
def outlineFrom (st : ScanState) (text : List Char) : List (Option Char) :=
  outline (if st.afterSpace then (seenFrom st text).dropWhile SeenChar.loose else seenFrom st text)

/-- A blank character outside quotes begins a gap of the outline or belongs to one. Any other
character stands for itself. -/
theorem outlineFrom_cons (st : ScanState) (c : Char) (rest : List Char) :
    outlineFrom st (c :: rest) =
      (if isBlank c && !st.inQuote then if st.afterSpace then [] else [none] else [some c]) ++
        outlineFrom (st.next c) rest := by
  have hloose : (⟨c, st.singleQuote, st.doubleQuote⟩ : SeenChar).loose =
      (isBlank c && !st.inQuote) := rfl
  have hnext : (st.next c).afterSpace = (isBlank c && !st.inQuote) := afterSpace_next st c
  rw [outlineFrom, outlineFrom, seenFrom, List.dropWhile_cons, hloose, hnext]
  by_cases hfold : (isBlank c && !st.inQuote) = true
  · rw [if_pos hfold, if_pos hfold, if_pos hfold]
    cases hspace : st.afterSpace with
    | true => rfl
    | false =>
      rw [if_neg Bool.false_ne_true, if_neg Bool.false_ne_true, outline, hloose, if_pos hfold]
      rfl
  · rw [if_neg hfold, if_neg hfold, if_neg hfold, ite_self, outline, hloose, if_neg hfold]
    rfl

/-- What is put out for a text is its outline with a space in every gap. -/
theorem written_eq_outlineFrom (st : ScanState) (text : List Char) :
    written st text = (outlineFrom st text).map (·.getD ' ') := by
  induction text generalizing st with
  | nil => cases hspace : st.afterSpace <;> simp [written, outlineFrom, seenFrom, outline, hspace]
  | cons c rest ih =>
    rw [written, ih, outlineFrom_cons, List.map_append, ScanState.output]
    split
    · split <;> rfl
    · rfl

/-- What is put out for a text is the text with its blank runs folded; the run that a space has
already been put out for is left out. -/
theorem written_eq_foldBlankRuns (st : ScanState) (text : List Char) :
    written st text = foldBlankRuns
      (if st.afterSpace then (seenFrom st text).dropWhile SeenChar.loose else seenFrom st text) := by
  rw [foldBlankRuns_eq_outline, written_eq_outlineFrom, outlineFrom]

/-- Folding replaces every maximal run of blank characters outside quotes by one space, for every
reading of the text that agrees with the scan about the quotes. -/
theorem collapse_eq_foldBlankRuns {text : List Char} {other : List SeenChar}
    (h : List.Forall₂ SeenChar.Agrees other (seenFrom {} text)) :
    collapse text = foldBlankRuns other := by
  rw [collapse_eq_written, written_eq_foldBlankRuns, foldBlankRuns_eq_outline,
    foldBlankRuns_eq_outline, outline_congr h]
  rfl

end Spacing
end SqlPrep
