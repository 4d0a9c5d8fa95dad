import SqlPrep.Proofs.ScanLoop
import SqlPrep.Proofs.Comment.Segmentation
import SqlPrep.Proofs.Spacing.QuoteStep

/-!
# Progress of both scans

From every state that breaks no rule, whether a scan ever reaches it or not, each step goes forward,
stays inside the text and leads to a state that breaks no rule. What it takes it puts out unchanged,
up to removed comments and folded blanks. So both loops run to the end of every text and no check of
a state ever fails.
-/

namespace SqlPrep

open SqlPrep.Text

/-- The scan for comments, stride by stride. -/
def Comment.stride (strategy : Strategy) (st : Comment.ScanState) (c : Char) (rest : List Char) :
    Stride Comment.ScanState :=
  let s := Comment.step strategy st c rest
  ⟨s.extra, if s.kept then c :: rest.take s.extra else [], s.after⟩

/-- The spacing scan, stride by stride. -/
def Spacing.stride (st : Spacing.ScanState) (c : Char) (rest : List Char) :
    Stride Spacing.ScanState :=
  let s := Spacing.step st c rest
  ⟨s.doubled.toNat, s.emitted, s.after⟩

/-- The characters from a position to the one after a stride. -/
theorem extract_next {σ : Type} {text : List Char} {index : Nat} (h : index < text.length)
    (s : Stride σ) :
    text.extract index (s.next index) = text[index] :: (text.drop (index + 1)).take s.extra := by
  have hlength : s.next index - index = s.extra + 1 := by simp only [Stride.next]; omega
  rw [List.extract_eq_take_drop, hlength, List.drop_eq_getElem_cons h, List.take_succ_cons]

/-- A stride with few enough further characters goes forward and stays inside the text. -/
theorem next_bounds {σ : Type} {text : List Char} {index : Nat} (h : index < text.length)
    {s : Stride σ} (hextra : s.extra ≤ (text.drop (index + 1)).length) :
    index < s.next index ∧ s.next index ≤ text.length := by
  rw [List.length_drop] at hextra
  simp only [Stride.next]
  omega

/-- The scan for comments leaves an escape pending only inside single or double quotes. -/
theorem Comment.escape_of_reached {strategy : Strategy} {sql : List Char} {index : Nat}
    {st : Comment.ScanState} (h : Reached (Comment.stride strategy) sql {} index st) :
    st.fault? = none ∧ (st.escapePending = true →
      (st.singleQuote || st.doubleQuote) = true ∧ st.inComment = false) := by
  induction h with
  | start => exact ⟨rfl, fun h => by cases h⟩
  | @turn index st h _ ih =>
    have hsound := Comment.step_sound ih.1 strategy sql[index] (sql.drop (index + 1))
    exact ⟨hsound.after_valid, hsound.escape⟩

/-- From a state that breaks no rule, the loop over positions puts out what the moves of a text do,
and ends in the same state. -/
theorem Comment.scanLoop_eq_moves (strategy : Strategy) {st : Comment.ScanState}
    (hst : st.fault? = none) (text : List Char) :
    scanLoop (Comment.stride strategy) Comment.ScanState.fault? text 0 st =
      .ok ⟨text.length, Comment.emitted (Comment.moves strategy st text),
        Comment.endState st (Comment.moves strategy st text)⟩ :=
  scanLoop_eq_ok (Comment.stride strategy) Comment.ScanState.fault?
    (fun st text => Comment.emitted (Comment.moves strategy st text))
    (fun st text => Comment.endState st (Comment.moves strategy st text))
    (fun _ c rest hst => (Comment.step_sound hst strategy c rest).after_valid)
    (fun _ c rest hst => (Comment.step_sound hst strategy c rest).extra_le)
    (fun st => by rw [Comment.moves_nil]; exact ⟨rfl, rfl⟩)
    (fun st c rest => by rw [Comment.moves_cons]; exact ⟨rfl, rfl⟩)
    text 0 (Nat.zero_le _) st hst

/-- From a state that breaks no rule, the loop over positions puts out what the moves of a text do,
and ends in the same state. -/
theorem Spacing.scanLoop_eq_moves {st : Spacing.ScanState} (hst : st.fault? = none)
    (text : List Char) :
    scanLoop Spacing.stride Spacing.ScanState.fault? text 0 st =
      .ok ⟨text.length, Spacing.emitted (Spacing.moves st text),
        Spacing.endState st (Spacing.moves st text)⟩ :=
  scanLoop_eq_ok Spacing.stride Spacing.ScanState.fault?
    (fun st text => Spacing.emitted (Spacing.moves st text))
    (fun st text => Spacing.endState st (Spacing.moves st text))
    (fun _ c rest hst => (Spacing.step_sound hst c rest).after_valid)
    (fun _ c rest hst => (Spacing.step_sound hst c rest).doubled_le)
    (fun st => by rw [Spacing.moves]; exact ⟨rfl, rfl⟩)
    (fun st c rest => by rw [Spacing.moves]; exact ⟨rfl, rfl⟩)
    text 0 (Nat.zero_le _) st hst

/-- The loop over positions removes comments. -/
theorem Comment.scanLoop_eq (strategy : Strategy) (sql : List Char) :
    scanLoop (Comment.stride strategy) Comment.ScanState.fault? sql 0 {} =
      .ok ⟨sql.length, (Comment.remove strategy sql).text,
        Comment.endState {} (Comment.moves strategy {} sql)⟩ := by
  rw [Comment.remove_text_eq_emitted, Comment.scanLoop_eq_moves strategy rfl]

/-- The loop over positions folds blank runs. -/
theorem Spacing.scanLoop_eq (sql : List Char) :
    scanLoop Spacing.stride Spacing.ScanState.fault? sql 0 {} =
      .ok ⟨sql.length, Spacing.collapse sql, Spacing.endState {} (Spacing.moves {} sql)⟩ :=
  Spacing.scanLoop_eq_moves rfl sql

/-- A stride of the scan for comments at a position inside a text keeps the rules of the state and
puts out exactly the characters up to the next position, or nothing at a comment. -/
def Comment.AdvancesAt (strategy : Strategy) (sql : List Char) (index : Nat)
    (h : index < sql.length) (st : Comment.ScanState) : Prop :=
  let s := strideAt (Comment.stride strategy) sql index h st
  s.after.fault? = none ∧ index < s.next index ∧ s.next index ≤ sql.length ∧
    (s.output = sql.extract index (s.next index) ∨
      s.output = [] ∧ (st.inComment = true ∨ s.after.inComment = true))

/-- A stride of the spacing scan at a position inside a text keeps the rule of the state and puts
out exactly the characters up to the next position, or for one blank character outside quotes a
space or nothing. -/
def Spacing.AdvancesAt (sql : List Char) (index : Nat) (h : index < sql.length)
    (st : Spacing.ScanState) : Prop :=
  let s := strideAt Spacing.stride sql index h st
  s.after.fault? = none ∧ index < s.next index ∧ s.next index ≤ sql.length ∧
    if isBlank sql[index] && !st.inQuote then
      s.next index = index + 1 ∧ (s.output = [' '] ∨ s.output = [])
    else s.output = sql.extract index (s.next index)

/-- Every stride of the scan for comments from a state that breaks no rule advances. -/
theorem Comment.advancesAt (strategy : Strategy) (sql : List Char) (index : Nat)
    (h : index < sql.length) {st : Comment.ScanState} (hst : st.fault? = none) :
    Comment.AdvancesAt strategy sql index h st := by
  have hsound := Comment.step_sound hst strategy sql[index] (sql.drop (index + 1))
  have hbounds := next_bounds h (s := strideAt (Comment.stride strategy) sql index h st)
    hsound.extra_le
  refine ⟨hsound.after_valid, hbounds.1, hbounds.2, ?_⟩
  rw [extract_next h]
  cases hkept : (Comment.step strategy st sql[index] (sql.drop (index + 1))).kept with
  | true => exact Or.inl (if_pos hkept)
  | false => exact Or.inr ⟨if_neg (by simp [hkept]), hsound.dropped hkept⟩

/-- Every stride of the spacing scan from a state that breaks no rule advances. -/
theorem Spacing.advancesAt (sql : List Char) (index : Nat) (h : index < sql.length)
    {st : Spacing.ScanState} (hst : st.fault? = none) : Spacing.AdvancesAt sql index h st := by
  have hsound := Spacing.step_sound hst sql[index] (sql.drop (index + 1))
  have hbounds := next_bounds h (s := strideAt Spacing.stride sql index h st) hsound.doubled_le
  refine ⟨hsound.after_valid, hbounds.1, hbounds.2, ?_⟩
  rw [extract_next h]
  split
  · next hblank =>
    obtain ⟨hdoubled, hemitted⟩ := hsound.blank hblank
    refine ⟨?_, hemitted⟩
    simp [Stride.next, strideAt, Spacing.stride, hdoubled]
  · next hblank => exact hsound.verbatim (by simpa using hblank)

/-- From every state that breaks no rule both scans keep the rules and advance verbatim, an escape
is pending only inside single or double quotes and outside comments, and both loops run to the end
of every text without a failed check. -/
theorem scans_advance_verbatim :
    (∀ strategy sql index (h : index < sql.length) (st : Comment.ScanState), st.fault? = none →
      Comment.AdvancesAt strategy sql index h st) ∧
    (∀ sql index (h : index < sql.length) (st : Spacing.ScanState), st.fault? = none →
      Spacing.AdvancesAt sql index h st) ∧
    (∀ strategy sql index st, Reached (Comment.stride strategy) sql {} index st →
      st.escapePending = true →
      (st.singleQuote || st.doubleQuote) = true ∧ st.inComment = false) ∧
    (∀ strategy sql, scanLoop (Comment.stride strategy) Comment.ScanState.fault? sql 0 {} =
      .ok ⟨sql.length, (Comment.remove strategy sql).text,
        Comment.endState {} (Comment.moves strategy {} sql)⟩) ∧
    (∀ sql, scanLoop Spacing.stride Spacing.ScanState.fault? sql 0 {} =
      .ok ⟨sql.length, Spacing.collapse sql, Spacing.endState {} (Spacing.moves {} sql)⟩) :=
  ⟨fun strategy sql index h _ hst => Comment.advancesAt strategy sql index h hst,
    fun sql index h _ hst => Spacing.advancesAt sql index h hst,
    fun _ _ _ _ hreached => (Comment.escape_of_reached hreached).2,
    Comment.scanLoop_eq, Spacing.scanLoop_eq⟩

/-- A pending escape inside a comment, which no scan reaches, a blank character inside quotes, and
a pending escape that a scan does reach. -/
theorem scans_advance_verbatim_pending :
    (({ blockComment := true, escapePending := true } : Comment.ScanState).fault? = none ∧
      Comment.AdvancesAt .all ['*', '/'] 0 (by decide)
        { blockComment := true, escapePending := true }) ∧
    (({ doubleQuote := true } : Spacing.ScanState).fault? = none ∧
      Spacing.AdvancesAt ['a', '\n'] 1 (by decide) { doubleQuote := true }) ∧
    (Reached (Comment.stride .all) ['\'', '\\'] {} 2 { singleQuote := true, escapePending := true } ∧
      (({ singleQuote := true, escapePending := true } : Comment.ScanState).singleQuote ||
        ({ singleQuote := true, escapePending := true } : Comment.ScanState).doubleQuote) = true) := by
  have hquote : Reached (Comment.stride .all) ['\'', '\\'] {} 1 { singleQuote := true } :=
    .turn (show 0 < 2 by decide) .start
  have hreached : Reached (Comment.stride .all) ['\'', '\\'] {} 2
      { singleQuote := true, escapePending := true } :=
    .turn (show 1 < 2 by decide) hquote
  obtain ⟨hcomment, hspacing, hescape, -⟩ := scans_advance_verbatim
  exact ⟨⟨rfl, hcomment _ _ _ _ _ rfl⟩, ⟨rfl, hspacing _ _ _ _ rfl⟩,
    hreached, (hescape _ _ _ _ hreached rfl).1⟩

end SqlPrep
