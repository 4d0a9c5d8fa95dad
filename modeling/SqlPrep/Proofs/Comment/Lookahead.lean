import SqlPrep.Proofs.Comment.Segmentation
import SqlPrep.Text.Blank

/-!
# Where a text can be cut

A step of the scan may look past the characters that it takes: for the second character of a
marker, for the second of two doubled marks, and for the rest of a dollar delimiter. Between a
character that never looks on and its successor, or before a character that is never looked for, a
text can be cut: the scan of the whole is the scan of the first part, continued on the second. A
blank character neither looks on nor is looked for.
-/

namespace SqlPrep.Comment

open SqlPrep.Text

/-- Whether a step can look past a character. -/
def looksOn (strategy : Strategy) (c : Char) : Bool :=
  c == '*' || c == '\'' || c == '"' || c == '$' || isTagChar c ||
    (c == '-' && strategy.removesOneline) || (c == '/' && strategy.removesMultiline)

/-- Whether a step can look for a character behind those that it takes. -/
def lookedFor (c : Char) : Bool :=
  c == '-' || c == '*' || c == '/' || c == '\'' || c == '"' || c == '$' || isTagChar c

/-- No step of the first text looks into the second. -/
def Separated (strategy : Strategy) (a b : List Char) : Prop :=
  (∀ c ∈ a.getLast?, looksOn strategy c = false) ∨ ∀ c ∈ b.head?, lookedFor c = false

variable {strategy : Strategy}

/-- No text that begins with a line feed is looked into. -/
theorem separated_of_lineFeed (strategy : Strategy) (a : List Char) {b : List Char}
    (h : b.head? = some '\n') : Separated strategy a b := by
  refine Or.inr fun c hc => ?_
  rw [h] at hc
  cases hc
  rfl

/-- The empty text is not looked into. -/
theorem separated_nil (strategy : Strategy) (a : List Char) : Separated strategy a [] :=
  Or.inr fun c hc => by cases hc

/-- A text that ends in a line feed looks into no text behind it. -/
theorem separated_of_endsLine (strategy : Strategy) {a : List Char} (h : a.getLast? = some '\n')
    (b : List Char) : Separated strategy a b := by
  refine Or.inl fun c hc => ?_
  rw [h] at hc
  cases hc
  cases strategy <;> rfl

/-- The codes of letters and digits. -/
theorem toNat_of_isAlphanum {c : Char} (h : c.isAlphanum = true) :
    48 ≤ c.toNat ∧ c.toNat ≤ 57 ∨ 65 ≤ c.toNat ∧ c.toNat ≤ 90 ∨ 97 ≤ c.toNat ∧ c.toNat ≤ 122 := by
  have hcases : (decide (65 ≤ c.val ∧ c.val ≤ 90) || (97 ≤ c.val && c.val ≤ 122) ||
      (48 ≤ c.val && c.val ≤ 57)) = true := h
  simp only [Bool.or_eq_true, Bool.and_eq_true, decide_eq_true_eq, UInt32.le_iff_toNat_le,
    UInt32.reduceToNat] at hcases
  have hval : c.toNat = c.val.toNat := rfl
  omega

/-- A blank character is not looked for. -/
theorem lookedFor_of_isBlank {c : Char} (hc : isBlank c = true) : lookedFor c = false := by
  have hplain : ∀ d ∈ ['-', '*', '/', '\'', '"', '$', '_'], c ≠ d := by
    rintro d hd rfl
    simp only [List.mem_cons, List.not_mem_nil, or_false] at hd
    rcases hd with rfl | rfl | rfl | rfl | rfl | rfl | rfl <;> cases hc
  have htag : c.isAlphanum = false := by
    refine Bool.eq_false_iff.mpr fun halnum => ?_
    have hbounds := toNat_of_isAlphanum halnum
    simp only [isBlank, blankRanges, List.any_cons, List.any_nil, Bool.or_eq_true,
      Bool.and_eq_true, decide_eq_true_eq, Bool.false_eq_true, or_false] at hc
    omega
  simp only [List.mem_cons, List.not_mem_nil, or_false, forall_eq_or_imp, forall_eq] at hplain
  simp [lookedFor, isTagChar, hplain, htag]

/-- No text that begins with a blank character is looked into. -/
theorem separated_of_blank (strategy : Strategy) (a : List Char) {b : List Char}
    (h : ∀ c ∈ b.head?, isBlank c = true) : Separated strategy a b :=
  Or.inr fun c hc => lookedFor_of_isBlank (h c hc)

/-- A step looks past no character that is not looked for itself. -/
theorem looksOn_of_not_lookedFor (strategy : Strategy) {c : Char} (hc : lookedFor c = false) :
    looksOn strategy c = false := by
  simp only [lookedFor, Bool.or_eq_false_iff] at hc
  simp [looksOn, hc]

/-- A text that ends in a blank character looks into no text behind it. -/
theorem separated_of_endsBlank (strategy : Strategy) {a : List Char}
    (h : ∀ c ∈ a.getLast?, isBlank c = true) (b : List Char) : Separated strategy a b :=
  Or.inl fun c hc => looksOn_of_not_lookedFor strategy (lookedFor_of_isBlank (h c hc))

/-- The next character is the same with and without a separated continuation. -/
theorem Separated.head?_append {a b : List Char} {c d : Char} (h : Separated strategy (c :: a) b)
    (hc : looksOn strategy c = true) (hd : lookedFor d = true) :
    (a ++ b).head? = some d ↔ a.head? = some d := by
  cases a with
  | cons e a => rfl
  | nil =>
    rcases h with hlast | hhead
    · simp [hc] at hlast
    · simp only [List.nil_append, List.head?_nil, reduceCtorEq, iff_false]
      intro hb
      simp [hb, hd] at hhead

/-- Later characters of a text are separated from a continuation as the whole text is. -/
theorem Separated.of_suffix {a a' b : List Char} (h : Separated strategy a b) (hsuffix : a' <:+ a)
    (hne : a' ≠ []) : Separated strategy a' b := by
  obtain ⟨front, rfl⟩ := hsuffix
  rwa [Separated, List.getLast?_append, List.getLast?_eq_some_getLast hne, Option.some_or,
    ← List.getLast?_eq_some_getLast hne] at h

/-- A tag is read the same with and without a separated continuation. -/
theorem Separated.dollarTag?_append {a b : List Char} {c : Char}
    (h : Separated strategy (c :: a) b) (hc : c = '$' ∨ isTagChar c = true) :
    dollarTag? (a ++ b) = dollarTag? a := by
  have hlooks : looksOn strategy c = true := by rcases hc with hc | hc <;> simp [looksOn, hc]
  induction a generalizing c with
  | nil =>
    rcases h with hlast | hhead
    · simp [hlooks] at hlast
    · cases b with
      | nil => rfl
      | cons d b =>
        have hd : lookedFor d = false := hhead d rfl
        simp only [lookedFor, Bool.or_eq_false_iff, beq_eq_false_iff_ne] at hd
        simp [dollarTag?, hd]
  | cons d a ih =>
    by_cases hd : isTagChar d
    · have htail := ih (h.of_suffix (List.suffix_cons c (d :: a)) (List.cons_ne_nil d a)) (Or.inr hd)
        (by simp [looksOn, hd])
      rw [← tagAfter?_eq_dollarTag?, ← tagAfter?_eq_dollarTag?] at htail ⊢
      rw [List.cons_append, tagAfter?, tagAfter?, htail]
    · simp [dollarTag?, hd]

/-- The same region opens with and without a separated continuation. -/
theorem Separated.opened?_append {a b : List Char} {c : Char} (h : Separated strategy (c :: a) b) :
    opened? strategy c (a ++ b) = opened? strategy c a := by
  have hline : strategy.removesOneline ∧ ['-', '-'] <+: c :: (a ++ b) ↔
      strategy.removesOneline ∧ ['-', '-'] <+: c :: a := by
    rw [pair_prefix_iff, pair_prefix_iff]
    refine and_congr_right fun hremoves => and_congr_right fun hc => ?_
    exact h.head?_append (by simp [looksOn, hc, hremoves]) rfl
  have hblock : strategy.removesMultiline ∧ ['/', '*'] <+: c :: (a ++ b) ↔
      strategy.removesMultiline ∧ ['/', '*'] <+: c :: a := by
    rw [pair_prefix_iff, pair_prefix_iff]
    refine and_congr_right fun hremoves => and_congr_right fun hc => ?_
    exact h.head?_append (by simp [looksOn, hc, hremoves]) rfl
  unfold opened?
  by_cases hdollar : c = '$'
  · simp only [hline, hblock, h.dollarTag?_append (Or.inl hdollar)]
  · simp only [hline, hblock, hdollar, ↓reduceIte]

/-- A step is the same with and without a separated continuation. -/
theorem Separated.step_append {st : ScanState} (hst : st.fault? = none) {a b : List Char} {c : Char}
    (h : Separated strategy (c :: a) b) :
    step strategy st c (a ++ b) = step strategy st c a := by
  obtain ⟨region, pending, rfl⟩ := (fault?_eq_none_iff st).mp hst
  cases pending with
  | true => rw [step_withEscape, step_withEscape]
  | false =>
    rw [withEscape_false]
    have hquoted {region : Region} {mark : Char} (hmark : region.mark? = some mark) :
        step strategy region.state c (a ++ b) = step strategy region.state c a := by
      have hlooks : looksOn strategy mark = true ∧ lookedFor mark = true := by
        cases region <;> cases hmark <;> exact ⟨rfl, rfl⟩
      rw [step_quoted hmark, step_quoted hmark]
      by_cases hc : c = mark
      · subst hc
        simp only [h.head?_append hlooks.1 hlooks.2]
      · simp only [hc, ↓reduceIte]
    rcases region with _ | (_ | _ | _ | _ | tag)
    · rw [stateIn, step_outside, step_outside, h.opened?_append]
    · rw [stateIn, step_lineComment, step_lineComment]
    · rw [stateIn, step_blockComment, step_blockComment]
      have hclose : c = '*' ∧ (a ++ b).head? = some '/' ↔ c = '*' ∧ a.head? = some '/' :=
        and_congr_right fun hc => h.head?_append (by simp [looksOn, hc]) rfl
      simp only [hclose]
    · exact hquoted rfl
    · exact hquoted rfl
    · rw [stateIn, step_dollarQuote, step_dollarQuote]
      have hclose : c = '$' ∧ dollarTag? (a ++ b) = some tag ↔ c = '$' ∧ dollarTag? a = some tag :=
        and_congr_right fun hc => by rw [h.dollarTag?_append (Or.inl hc)]
      simp only [hclose]

/-- The scan of a text is the scan of its first part, continued on a separated second part. -/
theorem moves_append {st : ScanState} (hst : st.fault? = none) {a b : List Char}
    (h : Separated strategy a b) :
    moves strategy st (a ++ b) =
      moves strategy st a ++ moves strategy (endState st (moves strategy st a)) b := by
  fun_induction moves strategy st a with
  | case1 st => rfl
  | case2 st c a s ih =>
    have hsound := step_sound hst strategy c a
    have hdrop : (a ++ b).drop s.extra = a.drop s.extra ++ b :=
      List.drop_append_of_le_length hsound.extra_le
    have htake : (a ++ b).take s.extra = a.take s.extra :=
      List.take_append_of_le_length hsound.extra_le
    rw [List.cons_append, moves_cons, h.step_append hst, hdrop, htake, List.cons_append, endState]
    congr 1
    by_cases hrest : a.drop s.extra = []
    · rw [hrest, moves_nil]
      rfl
    · exact ih hsound.after_valid
        (h.of_suffix ((List.drop_suffix _ _).trans (List.suffix_cons c a)) hrest)

end SqlPrep.Comment
