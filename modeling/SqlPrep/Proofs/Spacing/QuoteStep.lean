import SqlPrep.Spacing.Collapse

/-!
# The steps of the spacing scan

Every step keeps the two kinds of quote apart and stays inside the text. It puts out what it takes,
except at a blank character outside quotes, where it puts out one space or nothing.
-/

namespace SqlPrep.Spacing

open SqlPrep.Text

/-- A state breaks no rule when at most one kind of quote is open. -/
theorem fault?_eq_none_iff (st : ScanState) :
    st.fault? = none ↔ (st.singleQuote && st.doubleQuote) = false := by
  unfold ScanState.fault?
  split <;> simp_all

/-- A step that stays inside the text, leads to a state that breaks no rule, and changes the text
only at a blank character outside quotes, into a space or nothing. -/
structure Step.Sound (st : ScanState) (c : Char) (rest : List Char) (s : Step) : Prop where
  doubled_le : s.doubled.toNat ≤ rest.length
  after_valid : s.after.fault? = none
  verbatim : (isBlank c && !st.inQuote) = false → s.emitted = c :: rest.take s.doubled.toNat
  blank : (isBlank c && !st.inQuote) = true →
    s.doubled = false ∧ (s.emitted = [' '] ∨ s.emitted = [])

/-- A step at a quote mark is sound when opening or closing the quote is. -/
theorem quoteStep_sound {st toggled : ScanState} {c : Char} {inside : Bool} {rest : List Char}
    (hc : isBlank c = false) (hst : st.fault? = none) (htoggled : toggled.fault? = none) :
    (quoteStep st c inside toggled rest).Sound st c rest := by
  unfold quoteStep
  split
  · next hdoubled =>
    obtain ⟨tail, rfl⟩ := List.head?_eq_some_iff.mp hdoubled.2
    exact ⟨by simp, hst, fun _ => rfl, by simp [hc]⟩
  · exact ⟨Nat.zero_le _, htoggled, fun _ => rfl, by simp [hc]⟩

/-- A step at a blank character is sound. -/
theorem blankStep_sound {st : ScanState} {c : Char} {rest : List Char} (hc : isBlank c = true)
    (hst : st.fault? = none) : (blankStep st c).Sound st c rest := by
  unfold blankStep
  split
  · next hquote => exact ⟨Nat.zero_le _, hst, fun _ => rfl, by simp [hquote]⟩
  · next hquote =>
    have hblank : (isBlank c && !st.inQuote) = true := by simp [hc, hquote]
    split
    · exact ⟨Nat.zero_le _, hst, by simp [hblank], fun _ => ⟨rfl, Or.inr rfl⟩⟩
    · exact ⟨Nat.zero_le _, hst, by simp [hblank], fun _ => ⟨rfl, Or.inl rfl⟩⟩

/-- Every step from a state that breaks no rule is sound. -/
theorem step_sound {st : ScanState} (hst : st.fault? = none) (c : Char) (rest : List Char) :
    (step st c rest).Sound st c rest := by
  unfold step
  split
  · next hmark =>
    have hother : st.doubleQuote = false := by simpa using hmark.2
    refine quoteStep_sound (by rw [hmark.1]; decide) hst ((fault?_eq_none_iff _).mpr ?_)
    simp [hother]
  · split
    · next hmark =>
      have hother : st.singleQuote = false := by simpa using hmark.2
      refine quoteStep_sound (by rw [hmark.1]; decide) hst ((fault?_eq_none_iff _).mpr ?_)
      simp [hother]
    · split
      · next hblank => exact blankStep_sound hblank hst
      · next hblank => exact ⟨Nat.zero_le _, hst, fun _ => rfl, by simp [hblank]⟩

end SqlPrep.Spacing
