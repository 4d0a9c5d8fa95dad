import Mathlib.Logic.Function.Iterate
import SqlPrep.Proofs.ScanProgress

/-!
# Repeated removal

A removed comment loses at least its opening, which has two characters, and everything else is kept
in order. So a removal that changes a text makes it at least two characters shorter, and a text is
unchanged exactly if the scan opens no comment in it. Removing a comment may join two characters to a
new marker, so that a second removal finds a comment again; but removal repeated half as often as the
text has characters finds no more.
-/

namespace SqlPrep.Comment

/-- The scan of a text opens no comment. -/
def OpensNoComment (strategy : Strategy) (text : List Char) : Prop :=
  ∀ m ∈ moves strategy {} text, m.after.inComment = false

variable {strategy : Strategy}

/-- A scan that starts outside comments and enters none keeps everything. -/
theorem kept_of_inComment_after {st : ScanState} (hst : st.fault? = none)
    (hout : st.inComment = false) {text : List Char}
    (h : ∀ m ∈ moves strategy st text, m.after.inComment = false) :
    ∀ m ∈ moves strategy st text, m.kept = true := by
  fun_induction moves strategy st text with
  | case1 => simp
  | case2 st c rest s ih =>
    have hsound := step_sound hst strategy c rest
    obtain ⟨hafter, hlater⟩ := List.forall_mem_cons.mp h
    refine List.forall_mem_cons.mpr ⟨?_, ih hsound.after_valid hafter hlater⟩
    refine Bool.of_not_eq_false fun hdropped => ?_
    rcases hsound.dropped hdropped with hin | hin
    · rw [hout] at hin
      cases hin
    · rw [show s.after.inComment = false from hafter] at hin
      cases hin

/-- Removal changes nothing exactly if the scan opens no comment. -/
theorem remove_text_eq_self_iff {text : List Char} :
    (remove strategy text).text = text ↔ OpensNoComment strategy text := by
  rw [remove_text_eq_self_iff_kept]
  constructor
  · intro hkept m hm
    exact inComment_after_of_kept rfl hm (hkept m hm)
  · exact kept_of_inComment_after rfl rfl

/-- A removed segment has at least the two characters of its opening. -/
theorem two_le_length_of_removed {c : Char} {rest after : List Char} {g : Segment}
    (hfirst : firstSegment strategy c rest = (g, after)) (hremoved : g.removedBy strategy = true) :
    2 ≤ g.text.length := by
  rcases region_of_removed hremoved with hregion | hregion
  · exact (opening_prefix_text hfirst hregion).length_le
  · exact (opening_prefix_text hfirst hregion).length_le

/-- What is kept of the segments of a text is the text, or at least two characters shorter. -/
theorem keptText_eq_or_length_le (strategy : Strategy) (text : List Char) :
    keptText strategy (segments strategy text) = text ∨
      (keptText strategy (segments strategy text)).length + 2 ≤ text.length := by
  induction text using segments_induction strategy with
  | nil => exact Or.inl (by rw [segments_nil]; rfl)
  | cons c rest g after hfirst ih =>
    rw [segments_cons hfirst, keptText_cons, ← firstSegment_append hfirst]
    cases hremoved : g.removedBy strategy with
    | true =>
      have hlength := two_le_length_of_removed hfirst hremoved
      have hle : (keptText strategy (segments strategy after)).length ≤ after.length := by
        rcases ih with hsame | hshorter
        · simp [hsame]
        · omega
      right
      simp only [↓reduceIte, List.nil_append, List.length_append]
      omega
    | false =>
      refine ih.imp (fun hsame => ?_) (fun hshorter => ?_)
      · simp [hsame]
      · simp only [Bool.false_eq_true, ↓reduceIte, List.length_append]
        omega

/-- Removal changes nothing, or makes a text at least two characters shorter. -/
theorem removeComments_eq_or_length_le (strategy : Strategy) (sql : String) :
    removeComments strategy sql = sql ∨
      (removeComments strategy sql).length + 2 ≤ sql.length := by
  have hcases := keptText_eq_or_length_le strategy sql.toList
  rw [← emitted_moves, ← toList_removeComments] at hcases
  exact hcases.imp String.toList_injective id

/-- Removal that is repeated half as often as a text has characters has reached a text that it
leaves alone. -/
theorem removeComments_iterate (strategy : Strategy) {count : Nat} {sql : String}
    (hcount : sql.length / 2 ≤ count) :
    removeComments strategy ((removeComments strategy)^[count] sql) =
      (removeComments strategy)^[count] sql := by
  induction count generalizing sql with
  | zero =>
    rcases removeComments_eq_or_length_le strategy sql with hsame | hshorter
    · exact hsame
    · omega
  | succ count ih =>
    rcases removeComments_eq_or_length_le strategy sql with hsame | hshorter
    · rw [Function.iterate_fixed hsame, hsame]
    · rw [Function.iterate_succ_apply]
      exact ih (by omega)

/-- Removal leaves a text as it is exactly if the scan opens no comment in it, and otherwise leaves
at least two characters out and the others in order. Repeated at most half as often as the text has
characters, it comes to a text that it leaves alone and in which the scan opens no comment. The scan
that looks for no comments, which removal does not make, puts the whole text out. -/
theorem removeComments_shrinks (strategy : Strategy) (sql : String) :
    (removeComments strategy sql = sql ↔ OpensNoComment strategy sql.toList) ∧
      (removeComments strategy sql = sql ∨
        (removeComments strategy sql).length + 2 ≤ sql.length) ∧
      (removeComments strategy sql).toList.Sublist sql.toList ∧
      (∃ count ≤ sql.length / 2, ∃ last, (removeComments strategy)^[count] sql = last ∧
        removeComments strategy last = last ∧ OpensNoComment strategy last.toList) ∧
      removeComments .none sql = sql ∧
      ∃ final, scanLoop (stride .none) ScanState.fault? sql.toList 0 {} =
        .ok ⟨sql.toList.length, sql.toList, final⟩ := by
  have hunchanged {text : String} :
      removeComments strategy text = text ↔ OpensNoComment strategy text.toList := by
    rw [← remove_text_eq_self_iff, ← String.toList_inj, removeComments, String.toList_ofList]
  have hlast := removeComments_iterate strategy (Nat.le_refl (sql.length / 2))
  refine ⟨hunchanged, removeComments_eq_or_length_le strategy sql, ?_, ?_, ?_, ?_⟩
  · rw [toList_removeComments]
    exact emitted_sublist rfl sql.toList
  · exact ⟨_, Nat.le_refl _, _, rfl, hlast, hunchanged.mp hlast⟩
  · simp [removeComments, remove]
  · exact ⟨_, scanLoop_eq .none sql.toList⟩

/-- A removal can make a new comment, so one repetition is not always enough. -/
example : (removeComments .all)^[2] "-/**/-x" = "" ∧ removeComments .all "-/**/-x" = "--x" := by
  decide +kernel

end SqlPrep.Comment
