import SqlPrep.Proofs.Comment.Segment

/-!
# The scan inside each region

A state that breaks no rule is a region, or none, together with the flag for a pending escape. Each
step of the scan is described here once for every region; the proofs about whole scans use these
descriptions and never open the step again.
-/

namespace SqlPrep.Comment

/-- The state of a scan inside a region. -/
def Region.state : Region → ScanState
  | .lineComment => { lineComment := true }
  | .blockComment => { blockComment := true }
  | .singleQuote => { singleQuote := true }
  | .doubleQuote => { doubleQuote := true }
  | .dollarQuote tag => { dollarQuote := true, tag := some tag }

/-- The state of a scan inside a region or outside all of them. -/
def stateIn : Option Region → ScanState
  | none => {}
  | some region => region.state

/-- A state with or without a pending escape. -/
def ScanState.withEscape (st : ScanState) (pending : Bool) : ScanState :=
  { st with escapePending := pending }

/-- In a region no escape is pending unless it is said so. -/
theorem withEscape_false (region : Option Region) :
    (stateIn region).withEscape false = stateIn region := by
  rcases region with _ | (_ | _ | _ | _ | tag) <;> rfl

/-- The states that break no rule are the regions, with or without a pending escape. -/
theorem fault?_eq_none_iff (st : ScanState) :
    st.fault? = none ↔ ∃ region pending, st = (stateIn region).withEscape pending := by
  constructor
  · intro h
    obtain ⟨single, double, dollar, tag, line, block, pending⟩ := st
    cases tag with
    | none =>
      cases single <;> cases double <;> cases dollar <;> cases line <;> cases block <;>
        first
        | exact ⟨none, pending, rfl⟩
        | exact ⟨some .lineComment, pending, rfl⟩
        | exact ⟨some .blockComment, pending, rfl⟩
        | exact ⟨some .singleQuote, pending, rfl⟩
        | exact ⟨some .doubleQuote, pending, rfl⟩
        | exact absurd h (of_decide_eq_false rfl)
    | some tag =>
      cases single <;> cases double <;> cases dollar <;> cases line <;> cases block <;>
        first
        | exact ⟨some (.dollarQuote tag), pending, rfl⟩
        | exact absurd h (of_decide_eq_false rfl)
  · rintro ⟨region, pending, rfl⟩
    rcases region with _ | (_ | _ | _ | _ | tag) <;> rfl

/-- A tag is read one character at a time as it is read in one piece. -/
theorem tagAfter?_eq_dollarTag? (rest : List Char) : tagAfter? rest = dollarTag? rest := by
  induction rest with
  | nil => rfl
  | cons c rest ih =>
    by_cases hdollar : c = '$'
    · have hc : isTagChar '$' = false := by decide
      simp [tagAfter?, dollarTag?, hdollar, hc]
    · by_cases hc : isTagChar c
      · simp only [tagAfter?, hdollar, hc, ↓reduceIte, ih, dollarTag?, List.dropWhile_cons,
          List.takeWhile_cons]
        split <;> rfl
      · simp [tagAfter?, dollarTag?, hdollar, hc]

/-- A pending escape takes one character, whatever it is. -/
theorem step_withEscape (strategy : Strategy) (st : ScanState) (c : Char) (rest : List Char) :
    step strategy (st.withEscape true) c rest = ⟨0, !st.inComment, st.withEscape false⟩ := by
  simp [step, ScanState.withEscape, ScanState.inComment]

/-- Two characters begin a text when they are its first and second. -/
theorem pair_prefix_iff {a b c : Char} {rest : List Char} :
    [a, b] <+: c :: rest ↔ c = a ∧ rest.head? = some b := by
  cases rest with
  | nil => simp
  | cons d rest => simp [List.cons_prefix_cons, eq_comm]

/-- Nothing opens at a character that is no marker, no quote mark and no start of a delimiter. -/
theorem opened?_eq_none_iff {strategy : Strategy} {c : Char} {rest : List Char} :
    opened? strategy c rest = none ↔
      ¬ (strategy.removesOneline = true ∧ c = '-' ∧ rest.head? = some '-') ∧
      ¬ (strategy.removesMultiline = true ∧ c = '/' ∧ rest.head? = some '*') ∧
      c ≠ '\'' ∧ c ≠ '"' ∧ (c = '$' → dollarTag? rest = none) := by
  rw [← pair_prefix_iff, ← pair_prefix_iff, opened?]
  split
  · next hline => exact iff_of_false (by simp) (fun h => h.1 hline)
  · next hline =>
    split
    · next hblock => exact iff_of_false (by simp) (fun h => h.2.1 hblock)
    · next hblock =>
      rw [and_iff_right hline, and_iff_right hblock]
      by_cases hsingle : c = '\''
      · simp [hsingle]
      by_cases hdouble : c = '"'
      · simp [hdouble]
      by_cases hdollar : c = '$'
      · simp [hdollar]
      · simp [hsingle, hdouble, hdollar]

/-- Outside all regions, the step takes the opening of the region that opens, or else keeps the
character. -/
theorem step_outside (strategy : Strategy) (c : Char) (rest : List Char) :
    step strategy {} c rest =
      match opened? strategy c rest with
      | none => keep 0 {}
      | some region => ⟨region.opening.length - 1, !region.isComment, region.state⟩ := by
  have hline : opensLine strategy {} c rest = true ↔
      strategy.removesOneline ∧ ['-', '-'] <+: c :: rest := by
    rw [pair_prefix_iff]
    simp [opensLine, ScanState.inQuote, and_comm]
  have hblock : opensBlock strategy {} c rest = true ↔
      strategy.removesMultiline ∧ ['/', '*'] <+: c :: rest := by
    rw [pair_prefix_iff]
    simp [opensBlock, ScanState.inQuote, and_comm]
  simp only [step, opened?, ← hline, ← hblock]
  by_cases hl : opensLine strategy {} c rest
  · simp [hl, drop, Region.opening, Region.isComment, Region.state]
  by_cases hb : opensBlock strategy {} c rest
  · simp [hl, hb, drop, Region.opening, Region.isComment, Region.state]
  simp only [hl, hb, Bool.false_eq_true, ↓reduceIte, Bool.or_self, and_false]
  by_cases hsingle : c = '\''
  · simp [hsingle, quoteStep, singleQuoteStep, keep, Region.opening, Region.isComment, Region.state]
  by_cases hdouble : c = '"'
  · simp [hdouble, quoteStep, doubleQuoteStep, keep, Region.opening, Region.isComment, Region.state]
  by_cases hdollar : c = '$'
  · cases htag : dollarTag? rest <;>
      simp [hdollar, htag, quoteStep, dollarStep, tagAfter?_eq_dollarTag?, keep, Region.opening,
        delimiter, Region.isComment, Region.state]
  · simp [hsingle, hdouble, hdollar, quoteStep]

/-- A line comment goes on until a line feed, which is kept. -/
theorem step_lineComment (strategy : Strategy) (c : Char) (rest : List Char) :
    step strategy (Region.state .lineComment) c rest =
      if c = '\n' then keep 0 {} else drop 0 (Region.state .lineComment) := by
  simp [step, Region.state, lineCommentStep]

/-- A block comment goes on until its closing mark. -/
theorem step_blockComment (strategy : Strategy) (c : Char) (rest : List Char) :
    step strategy (Region.state .blockComment) c rest =
      if c = '*' ∧ rest.head? = some '/' then drop 1 {}
      else drop 0 (Region.state .blockComment) := by
  simp [step, Region.state, blockCommentStep]

/-- A text in single or double quotes goes on until a mark that is neither escaped nor doubled. -/
theorem step_quoted {region : Region} {mark : Char} (h : region.mark? = some mark)
    (strategy : Strategy) (c : Char) (rest : List Char) :
    step strategy region.state c rest =
      if c = '\\' then keep 0 (region.state.withEscape true)
      else if c = mark then
        if rest.head? = some mark then keep 1 region.state else keep 0 {}
      else keep 0 region.state := by
  cases region <;> cases h <;>
    simp [step, Region.state, ScanState.withEscape, opensLine, opensBlock, ScanState.inQuote,
      quoteStep, singleQuoteStep, doubleQuoteStep]

/-- A dollar-quoted text goes on until a delimiter with the same tag. -/
theorem step_dollarQuote (strategy : Strategy) (tag : List Char) (c : Char) (rest : List Char) :
    step strategy (Region.state (.dollarQuote tag)) c rest =
      if c = '$' ∧ dollarTag? rest = some tag then keep (tag.length + 1) {}
      else keep 0 (Region.state (.dollarQuote tag)) := by
  simp only [step, Region.state, opensLine, opensBlock, ScanState.inQuote, quoteStep, dollarStep,
    tagAfter?_eq_dollarTag?]
  by_cases hc : c = '$'
  · cases htag : dollarTag? rest with
    | none => simp [hc]
    | some other => by_cases hother : tag = other <;> simp [hc, hother, eq_comm]
  · simp [hc]

/-- A step inside a region stays in it or leaves it. -/
theorem step_inside_next (strategy : Strategy) (region : Region) (c : Char) (rest : List Char) :
    ∃ next pending, (step strategy region.state c rest).after =
      (stateIn next).withEscape pending ∧ (next = some region ∨ next = none) := by
  have hstay : region.state = (stateIn (some region)).withEscape false :=
    (withEscape_false (some region)).symm
  have hquoted {mark : Char} (hmark : region.mark? = some mark) :
      ∃ next pending, (step strategy region.state c rest).after =
        (stateIn next).withEscape pending ∧ (next = some region ∨ next = none) := by
    rw [step_quoted hmark]
    split
    · exact ⟨some region, true, rfl, Or.inl rfl⟩
    · split
      · split
        · exact ⟨some region, false, hstay, Or.inl rfl⟩
        · exact ⟨none, false, rfl, Or.inr rfl⟩
      · exact ⟨some region, false, hstay, Or.inl rfl⟩
  cases region with
  | lineComment =>
    rw [step_lineComment]
    split
    · exact ⟨none, false, rfl, Or.inr rfl⟩
    · exact ⟨some .lineComment, false, rfl, Or.inl rfl⟩
  | blockComment =>
    rw [step_blockComment]
    split
    · exact ⟨none, false, rfl, Or.inr rfl⟩
    · exact ⟨some .blockComment, false, rfl, Or.inl rfl⟩
  | singleQuote => exact hquoted rfl
  | doubleQuote => exact hquoted rfl
  | dollarQuote tag =>
    rw [step_dollarQuote]
    split
    · exact ⟨none, false, rfl, Or.inr rfl⟩
    · exact ⟨some (.dollarQuote tag), false, rfl, Or.inl rfl⟩

/-- A step stays in its region, leaves it, or enters the region that opens at its character. -/
theorem step_next (strategy : Strategy) (region : Option Region) (pending : Bool) (c : Char)
    (rest : List Char) :
    ∃ next pending', (step strategy ((stateIn region).withEscape pending) c rest).after =
        (stateIn next).withEscape pending' ∧
      (next = region ∨ next = none ∨ next = opened? strategy c rest) := by
  cases pending with
  | true =>
    rw [step_withEscape]
    exact ⟨region, false, rfl, Or.inl rfl⟩
  | false =>
    rw [withEscape_false]
    cases region with
    | none =>
      rw [stateIn, step_outside]
      cases hopened : opened? strategy c rest with
      | none => exact ⟨none, false, rfl, Or.inl rfl⟩
      | some region =>
        exact ⟨some region, false, (withEscape_false (some region)).symm, Or.inr (Or.inr rfl)⟩
    | some region =>
      obtain ⟨next, pending', hafter, hnext⟩ := step_inside_next strategy region c rest
      exact ⟨next, pending', hafter, hnext.imp_right Or.inl⟩

/-- A step that stays inside the text, leads to a state that breaks no rule, drops text only at a
comment and enters a comment only by dropping text, and leaves an escape pending only inside single
or double quotes. -/
structure Step.Sound (st : ScanState) (rest : List Char) (s : Step) : Prop where
  extra_le : s.extra ≤ rest.length
  after_valid : s.after.fault? = none
  dropped : s.kept = false → st.inComment = true ∨ s.after.inComment = true
  entered : s.kept = true → s.after.inComment = false
  escape : s.after.escapePending = true →
    (s.after.singleQuote || s.after.doubleQuote) = true ∧ s.after.inComment = false

/-- A region without a pending escape is a sound place to go on in, with text kept outside comments
or dropped at one. -/
theorem Step.sound_of_region {st : ScanState} {rest : List Char} {extra : Nat} {kept : Bool}
    (region : Option Region) (hextra : extra ≤ rest.length)
    (hdropped : kept = false → st.inComment = true ∨ (stateIn region).inComment = true)
    (hentered : kept = true → (stateIn region).inComment = false) :
    Step.Sound st rest ⟨extra, kept, stateIn region⟩ where
  extra_le := hextra
  after_valid := (fault?_eq_none_iff _).mpr ⟨region, false, (withEscape_false region).symm⟩
  dropped := hdropped
  entered := hentered
  escape h := by rcases region with _ | (_ | _ | _ | _ | tag) <;> cases h

/-- A step that keeps text outside comments is sound when it stays inside the text. -/
theorem Step.sound_of_keep {st : ScanState} {rest : List Char} {extra : Nat}
    (region : Option Region) (hextra : extra ≤ rest.length)
    (hregion : (stateIn region).inComment = false) :
    Step.Sound st rest (keep extra (stateIn region)) :=
  Step.sound_of_region region hextra (fun h => by cases h) (fun _ => hregion)

/-- A step that drops text inside a comment is sound when it stays inside the text. -/
theorem Step.sound_of_drop {st : ScanState} {rest : List Char} {extra : Nat}
    (region : Option Region) (hextra : extra ≤ rest.length) (hst : st.inComment = true) :
    Step.Sound st rest (drop extra (stateIn region)) :=
  Step.sound_of_region region hextra (fun _ => Or.inl hst) (fun h => by cases h)

/-- A text in single or double quotes is a sound place for a pending escape. -/
theorem Step.sound_of_escape {st : ScanState} {rest : List Char} {region : Region} {mark : Char}
    (hmark : region.mark? = some mark) :
    Step.Sound st rest (keep 0 (region.state.withEscape true)) := by
  have hquoted : (region.state.singleQuote || region.state.doubleQuote) = true ∧
      region.state.inComment = false := by
    cases region <;> first | exact ⟨rfl, rfl⟩ | cases hmark
  exact ⟨Nat.zero_le _, (fault?_eq_none_iff _).mpr ⟨some region, true, rfl⟩,
    fun h => Bool.noConfusion h, fun _ => hquoted.2, fun _ => hquoted⟩

/-- A text with a first character has at least one character. -/
theorem one_le_length_of_head? {rest : List Char} {c : Char} (h : rest.head? = some c) :
    1 ≤ rest.length := by
  obtain ⟨tail, rfl⟩ := List.head?_eq_some_iff.mp h
  simp

/-- A region is a comment when its state is in one. -/
theorem Region.inComment_state (region : Region) : region.state.inComment = region.isComment := by
  cases region <;> rfl

/-- Every step outside all regions is sound. -/
theorem step_outside_sound (strategy : Strategy) (c : Char) (rest : List Char) :
    (step strategy {} c rest).Sound {} rest := by
  rw [step_outside]
  cases hopened : opened? strategy c rest with
  | none => exact Step.sound_of_keep none (Nat.zero_le _) rfl
  | some region =>
    have hlength := congrArg List.length (opening_append_drop hopened)
    simp only [List.length_append, List.length_cons] at hlength
    have hcomment := region.inComment_state
    refine Step.sound_of_region (some region) (by omega) (fun h => Or.inr ?_) (fun h => ?_)
    · simpa [stateIn, hcomment] using h
    · simpa [stateIn, hcomment] using h

/-- Every step inside a region is sound. -/
theorem step_inside_sound (strategy : Strategy) (region : Region) (c : Char) (rest : List Char) :
    (step strategy region.state c rest).Sound region.state rest := by
  have hquoted {mark : Char} (hmark : region.mark? = some mark) :
      (step strategy region.state c rest).Sound region.state rest := by
    have hregion : (stateIn (some region)).inComment = false := by
      cases region <;> first | rfl | cases hmark
    rw [step_quoted hmark]
    split
    · exact Step.sound_of_escape hmark
    · split
      · split
        · next hhead =>
          exact Step.sound_of_keep (some region) (one_le_length_of_head? hhead) hregion
        · exact Step.sound_of_keep none (Nat.zero_le _) rfl
      · exact Step.sound_of_keep (some region) (Nat.zero_le _) hregion
  cases region with
  | lineComment =>
    rw [step_lineComment]
    split
    · exact Step.sound_of_keep none (Nat.zero_le _) rfl
    · exact Step.sound_of_drop (some .lineComment) (Nat.zero_le _) rfl
  | blockComment =>
    rw [step_blockComment]
    split
    · next hmark => exact Step.sound_of_drop none (one_le_length_of_head? hmark.2) rfl
    · exact Step.sound_of_drop (some .blockComment) (Nat.zero_le _) rfl
  | singleQuote => exact hquoted rfl
  | doubleQuote => exact hquoted rfl
  | dollarQuote tag =>
    rw [step_dollarQuote]
    split
    · next hclose =>
      obtain ⟨body, hbody⟩ := dollarTag?_eq_some hclose.2
      refine Step.sound_of_keep none ?_ rfl
      simp only [hbody, List.length_append, List.length_cons]
      omega
    · exact Step.sound_of_keep (some (.dollarQuote tag)) (Nat.zero_le _) rfl

/-- Every step from a state that breaks no rule is sound. -/
theorem step_sound {st : ScanState} (hst : st.fault? = none) (strategy : Strategy) (c : Char)
    (rest : List Char) : (step strategy st c rest).Sound st rest := by
  obtain ⟨region, pending, rfl⟩ := (fault?_eq_none_iff st).mp hst
  cases pending with
  | true =>
    rw [step_withEscape, withEscape_false]
    refine Step.sound_of_region region (Nat.zero_le _) (fun h => Or.inl ?_) (fun h => ?_)
    · have hcomment : (stateIn region).inComment = true := by simpa using h
      exact hcomment
    · simpa using h
  | false =>
    rw [withEscape_false]
    cases region with
    | none => exact step_outside_sound strategy c rest
    | some region => exact step_inside_sound strategy region c rest

end SqlPrep.Comment
