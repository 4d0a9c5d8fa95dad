import SqlPrep.Proofs.Comment.RegionStep

/-!
# Runs of the scan through a region

The scan of a text splits into the moves up to some place and the moves from there on. `Passes`
says that the first part ends in a given state and is kept or dropped as a whole. From the opening
of a region the scan passes exactly to the place where the region ends.
-/

namespace SqlPrep.Comment

/-- The text that moves take together. -/
def taken (ms : List Move) : List Char :=
  ms.flatMap Move.taken

/-- The scan gets from a state before a text to a state before what is left of the text, and keeps
all that it takes on the way, or drops all of it. -/
def Passes (strategy : Strategy) (kept : Bool) (st : ScanState) (text : List Char)
    (st' : ScanState) (left : List Char) : Prop :=
  ∃ ms, moves strategy st text = ms ++ moves strategy st' left ∧ taken ms ++ left = text ∧
    (∀ m ∈ ms, m.kept = kept) ∧ endState st ms = st'

/-- The empty text takes no move. -/
@[simp] theorem moves_nil (strategy : Strategy) (st : ScanState) : moves strategy st [] = [] := by
  rw [moves]

/-- The first move of a scan is its step at the first character. -/
theorem moves_cons (strategy : Strategy) (st : ScanState) (c : Char) (rest : List Char) :
    moves strategy st (c :: rest) =
      ⟨c :: rest.take (step strategy st c rest).extra, (step strategy st c rest).kept,
        (step strategy st c rest).after⟩ ::
      moves strategy (step strategy st c rest).after (rest.drop (step strategy st c rest).extra) := by
  rw [moves]

variable {strategy : Strategy} {kept : Bool} {st st' : ScanState}

/-- The scan passes nothing without a move. -/
theorem Passes.refl (text : List Char) : Passes strategy kept st text st text :=
  ⟨[], rfl, rfl, by simp, rfl⟩

/-- The scan passes what it takes in one step and then what it passes from there. -/
theorem Passes.head {c : Char} {rest left : List Char} (extra : Nat) (after : ScanState)
    (hstep : step strategy st c rest = ⟨extra, kept, after⟩)
    (h : Passes strategy kept after (rest.drop extra) st' left) :
    Passes strategy kept st (c :: rest) st' left := by
  obtain ⟨ms, hmoves, htaken, hkept, hend⟩ := h
  refine ⟨⟨c :: rest.take extra, kept, after⟩ :: ms, ?_, ?_, ?_, hend⟩
  · rw [moves_cons, hstep, hmoves, List.cons_append]
  · rw [taken, List.flatMap_cons, ← taken, List.append_assoc, htaken, List.cons_append,
      List.take_append_drop]
  · simpa using hkept

/-- From a state that breaks no rule, the moves of a text take the whole text. -/
theorem taken_moves (hst : st.fault? = none) (text : List Char) :
    taken (moves strategy st text) = text := by
  fun_induction moves strategy st text with
  | case1 => rfl
  | case2 st c rest s ih =>
    have hsound := step_sound hst strategy c rest
    rw [taken, List.flatMap_cons, ← taken, ih hsound.after_valid, List.cons_append,
      List.take_append_drop]

/-- The scan of a text leads from a state that breaks no rule to another one. -/
theorem fault?_endState (hst : st.fault? = none) (text : List Char) :
    (endState st (moves strategy st text)).fault? = none := by
  fun_induction moves strategy st text with
  | case1 => exact hst
  | case2 st c rest s ih => exact ih (step_sound hst strategy c rest).after_valid

/-- A scan that leaves an escape pending only inside single or double quotes ends in such a
state. -/
theorem escape_endState (hst : st.fault? = none)
    (hescape : st.escapePending = true →
      (st.singleQuote || st.doubleQuote) = true ∧ st.inComment = false) (text : List Char) :
    (endState st (moves strategy st text)).escapePending = true →
      ((endState st (moves strategy st text)).singleQuote ||
        (endState st (moves strategy st text)).doubleQuote) = true ∧
      (endState st (moves strategy st text)).inComment = false := by
  fun_induction moves strategy st text with
  | case1 => exact hescape
  | case2 st c rest s ih =>
    have hsound := step_sound hst strategy c rest
    exact ih hsound.after_valid hsound.escape

/-- The scan of a whole text ends in a state that breaks no rule, with an escape pending only inside
single or double quotes. -/
theorem endState_start_sound (strategy : Strategy) (text : List Char) :
    (endState {} (moves strategy {} text)).fault? = none ∧
      ((endState {} (moves strategy {} text)).escapePending = true →
        ((endState {} (moves strategy {} text)).singleQuote ||
          (endState {} (moves strategy {} text)).doubleQuote) = true ∧
        (endState {} (moves strategy {} text)).inComment = false) :=
  ⟨fault?_endState rfl text, escape_endState rfl (fun h => by cases h) text⟩

/-- A move that keeps what it takes leads outside comments. -/
theorem inComment_after_of_kept (hst : st.fault? = none) {text : List Char} {m : Move}
    (hm : m ∈ moves strategy st text) (hkept : m.kept = true) : m.after.inComment = false := by
  fun_induction moves strategy st text with
  | case1 => cases hm
  | case2 st c rest s ih =>
    have hsound := step_sound hst strategy c rest
    rcases List.mem_cons.mp hm with rfl | hmem
    · exact hsound.entered hkept
    · exact ih hsound.after_valid hmem

/-- A scan that keeps everything ends outside comments. -/
theorem inComment_endState_of_kept (hst : st.fault? = none) (hout : st.inComment = false)
    {text : List Char} (hkept : ∀ m ∈ moves strategy st text, m.kept = true) :
    (endState st (moves strategy st text)).inComment = false := by
  fun_induction moves strategy st text with
  | case1 => exact hout
  | case2 st c rest s ih =>
    have hsound := step_sound hst strategy c rest
    exact ih hsound.after_valid (hsound.entered (hkept _ List.mem_cons_self))
      fun m hm => hkept m (List.mem_cons_of_mem _ hm)

/-- Moves put out some of what they take, in order. -/
theorem emitted_sublist_taken (ms : List Move) : (emitted ms).Sublist (taken ms) := by
  induction ms with
  | nil => exact List.Sublist.refl _
  | cons m ms ih =>
    rw [emitted, List.flatMap_cons, taken, List.flatMap_cons]
    refine List.Sublist.append ?_ ih
    rw [Move.emitted]
    split
    · exact List.Sublist.refl _
    · exact List.nil_sublist _

/-- From a state that breaks no rule, a scan puts out some of the text, in order. -/
theorem emitted_sublist (hst : st.fault? = none) (text : List Char) :
    (emitted (moves strategy st text)).Sublist text := by
  have htaken := emitted_sublist_taken (moves strategy st text)
  rwa [taken_moves hst] at htaken

/-- A scan that puts out all that it takes has kept everything. -/
theorem kept_of_emitted_eq_taken {text : List Char}
    (h : emitted (moves strategy st text) = taken (moves strategy st text)) :
    ∀ m ∈ moves strategy st text, m.kept = true := by
  fun_induction moves strategy st text with
  | case1 => simp
  | case2 st c rest s ih =>
    have hshorter := (emitted_sublist_taken (moves strategy s.after (rest.drop s.extra))).length_le
    rw [emitted, taken, List.flatMap_cons, List.flatMap_cons, ← emitted, ← taken,
      Move.emitted] at h
    by_cases hs : s.kept = true
    · rw [if_pos hs] at h
      exact List.forall_mem_cons.mpr ⟨hs, ih (List.append_cancel_left h)⟩
    · rw [if_neg hs] at h
      have hlength := congrArg List.length h
      simp only [List.nil_append, List.length_append, List.length_cons] at hlength
      omega

/-- A tag that is read has tag characters only. -/
theorem dollarTag?_isTagChar {rest tag : List Char} (h : dollarTag? rest = some tag) :
    ∀ c ∈ tag, isTagChar c := by
  unfold dollarTag? at h
  split at h
  · rw [← Option.some.inj h]
    exact fun c hc => List.all_eq_true.mp List.all_takeWhile c hc
  · cases h

/-- A delimiter is found by reading its tag. -/
theorem delimiter_prefix_iff {tag rest : List Char} {c : Char} (htag : ∀ d ∈ tag, isTagChar d) :
    delimiter tag <+: c :: rest ↔ c = '$' ∧ dollarTag? rest = some tag := by
  have hdollar : isTagChar '$' = false := by decide
  constructor
  · rintro ⟨body, hbody⟩
    simp only [delimiter, List.cons_append, List.append_assoc, List.nil_append,
      List.cons.injEq] at hbody
    obtain ⟨rfl, rfl⟩ := hbody
    refine ⟨rfl, ?_⟩
    simp [dollarTag?, List.takeWhile_append_of_pos htag, List.dropWhile_append_of_pos htag, hdollar]
  · rintro ⟨rfl, h⟩
    obtain ⟨body, rfl⟩ := dollarTag?_eq_some h
    exact ⟨body, by simp [delimiter]⟩

/-- A pending escape passes one character. -/
theorem Passes.escaped {region : Region} {c : Char} {rest left : List Char}
    (hkept : region.isComment = !kept)
    (h : Passes strategy kept region.state rest st' left) :
    Passes strategy kept (region.state.withEscape true) (c :: rest) st' left := by
  have hescape : region.state.withEscape false = region.state := withEscape_false (some region)
  refine Passes.head 0 region.state ?_ h
  rw [step_withEscape, region.inComment_state, hkept, Bool.not_not, hescape]

/-- Up to a line feed, the scan drops a line comment. -/
theorem passes_splitLine? {text inside after : List Char}
    (h : splitLine? text = some (inside, after)) :
    Passes strategy false (Region.state .lineComment) text (Region.state .lineComment) after := by
  fun_induction splitLine? text generalizing inside with
  | case1 => simp at h
  | case2 => cases h; exact Passes.refl _
  | case3 c rest hc ih =>
    obtain ⟨inside', hsplit, rfl⟩ := map_putBefore_eq_some.mp h
    refine Passes.head 0 _ ?_ (ih hsplit)
    rw [step_lineComment, if_neg hc, drop]

/-- Without a line feed, the scan drops the whole text after the opening of a line comment. -/
theorem passes_splitLine?_none {text : List Char} (h : splitLine? text = none) :
    Passes strategy false (Region.state .lineComment) text (Region.state .lineComment) [] := by
  fun_induction splitLine? text with
  | case1 => exact Passes.refl _
  | case2 => cases h
  | case3 c rest hc ih =>
    refine Passes.head 0 _ ?_ (ih (Option.map_eq_none_iff.mp h))
    rw [step_lineComment, if_neg hc, drop]

/-- Through its closing mark, the scan drops a block comment. -/
theorem passes_splitBlock {text inside after : List Char}
    (h : splitAfter? ['*', '/'] text = some (inside, after)) :
    Passes strategy false (Region.state .blockComment) text {} after := by
  fun_induction splitAfter? ['*', '/'] text generalizing inside with
  | case1 => simp at h
  | case2 c rest hmark =>
    cases h
    refine Passes.head 1 _ ?_ (Passes.refl _)
    rw [step_blockComment, if_pos (pair_prefix_iff.mp hmark), drop]
  | case3 c rest hmark ih =>
    obtain ⟨inside', hsplit, rfl⟩ := map_putBefore_eq_some.mp h
    refine Passes.head 0 _ ?_ (ih hsplit)
    rw [step_blockComment, if_neg (mt pair_prefix_iff.mpr hmark), drop]

/-- Without a closing mark, the scan drops the whole text after the opening of a block comment. -/
theorem passes_splitBlock_none {text : List Char} (h : splitAfter? ['*', '/'] text = none) :
    Passes strategy false (Region.state .blockComment) text (Region.state .blockComment) [] := by
  fun_induction splitAfter? ['*', '/'] text with
  | case1 => exact Passes.refl _
  | case2 => cases h
  | case3 c rest hmark ih =>
    refine Passes.head 0 _ ?_ (ih (Option.map_eq_none_iff.mp h))
    rw [step_blockComment, if_neg (mt pair_prefix_iff.mpr hmark), drop]

/-- Through the closing delimiter, the scan keeps a dollar-quoted text. -/
theorem passes_splitDollar {tag text inside after : List Char} (htag : ∀ c ∈ tag, isTagChar c)
    (h : splitAfter? (delimiter tag) text = some (inside, after)) :
    Passes strategy true (Region.state (.dollarQuote tag)) text {} after := by
  fun_induction splitAfter? (delimiter tag) text generalizing inside with
  | case1 => simp at h
  | case2 c rest hmark =>
    cases h
    refine Passes.head (tag.length + 1) {} ?_ ?_
    · rw [step_dollarQuote, if_pos ((delimiter_prefix_iff htag).mp hmark), keep]
    · simpa [delimiter] using Passes.refl _
  | case3 c rest hmark ih =>
    obtain ⟨inside', hsplit, rfl⟩ := map_putBefore_eq_some.mp h
    refine Passes.head 0 _ ?_ (ih hsplit)
    rw [step_dollarQuote, if_neg (mt (delimiter_prefix_iff htag).mpr hmark), keep]

/-- Without a closing delimiter, the scan keeps the whole text after the opening one. -/
theorem passes_splitDollar_none {tag text : List Char} (htag : ∀ c ∈ tag, isTagChar c)
    (h : splitAfter? (delimiter tag) text = none) :
    Passes strategy true (Region.state (.dollarQuote tag)) text
      (Region.state (.dollarQuote tag)) [] := by
  fun_induction splitAfter? (delimiter tag) text with
  | case1 => exact Passes.refl _
  | case2 => cases h
  | case3 c rest hmark ih =>
    refine Passes.head 0 _ ?_ (ih (Option.map_eq_none_iff.mp h))
    rw [step_dollarQuote, if_neg (mt (delimiter_prefix_iff htag).mpr hmark), keep]

/-- A unit inside quotes, an escaped character or a doubled mark, is passed in one piece. -/
theorem passes_quoteUnit {region : Region} {mark c d : Char} {rest left : List Char}
    (hmark : region.mark? = some mark) (hunit : c = '\\' ∨ (c = mark ∧ d = mark))
    (h : Passes strategy true region.state rest st' left) :
    Passes strategy true region.state (c :: d :: rest) st' left := by
  have hcomment : region.isComment = false := by cases region <;> first | rfl | cases hmark
  by_cases hc : c = '\\'
  · refine Passes.head 0 (region.state.withEscape true) ?_ (Passes.escaped hcomment h)
    rw [step_quoted hmark, if_pos hc, keep]
  · obtain ⟨rfl, rfl⟩ := hunit.resolve_left hc
    refine Passes.head 1 region.state ?_ h
    rw [step_quoted hmark, if_neg hc, if_pos rfl, List.head?_cons, if_pos rfl, keep]

/-- Through its closing mark, the scan keeps a quoted text. -/
theorem passes_splitQuote? {region : Region} {mark : Char} {text inside after : List Char}
    (hmark : region.mark? = some mark) (h : splitQuote? mark text = some (inside, after)) :
    Passes strategy true region.state text {} after := by
  have hescape : mark ≠ '\\' := by
    rintro rfl
    cases region <;> cases hmark
  fun_induction splitQuote? mark text generalizing inside with
  | case1 => simp at h
  | case2 =>
    cases h
    refine Passes.head 0 {} ?_ (Passes.refl _)
    rw [step_quoted hmark, if_neg hescape, if_pos rfl, if_neg (by simp), keep]
  | case3 => simp at h
  | case4 c d rest hunit ih =>
    obtain ⟨inside', hsplit, rfl⟩ := map_putBefore_eq_some.mp h
    exact passes_quoteUnit hmark hunit (ih hsplit)
  | case5 d rest hunit =>
    cases h
    refine Passes.head 0 {} ?_ (Passes.refl _)
    rw [step_quoted hmark, if_neg hescape, if_pos rfl, if_neg (by simp_all), keep]
  | case6 c d rest hunit hc ih =>
    obtain ⟨inside', hsplit, rfl⟩ := map_putBefore_eq_some.mp h
    refine Passes.head 0 region.state ?_ (ih hsplit)
    rw [step_quoted hmark, if_neg (fun hc => hunit (Or.inl hc)), if_neg hc, keep]

/-- Without a closing mark, the scan keeps the whole text after the opening one. -/
theorem passes_splitQuote?_none {region : Region} {mark : Char} {text : List Char}
    (hmark : region.mark? = some mark) (h : splitQuote? mark text = none) :
    ∃ pending, Passes strategy true region.state text (region.state.withEscape pending) [] := by
  have hescape : region.state.withEscape false = region.state := withEscape_false (some region)
  fun_induction splitQuote? mark text with
  | case1 => exact ⟨false, by rw [hescape]; exact Passes.refl _⟩
  | case2 => cases h
  | case3 c hc =>
    by_cases hc' : c = '\\'
    · refine ⟨true, Passes.head 0 _ ?_ (Passes.refl _)⟩
      rw [step_quoted hmark, if_pos hc', keep]
    · refine ⟨false, Passes.head 0 _ ?_ (Passes.refl _)⟩
      rw [step_quoted hmark, if_neg hc', if_neg hc, keep, hescape]
  | case4 c d rest hunit ih =>
    obtain ⟨pending, hpasses⟩ := ih (Option.map_eq_none_iff.mp h)
    exact ⟨pending, passes_quoteUnit hmark hunit hpasses⟩
  | case5 => cases h
  | case6 c d rest hunit hc ih =>
    obtain ⟨pending, hpasses⟩ := ih (Option.map_eq_none_iff.mp h)
    refine ⟨pending, Passes.head 0 region.state ?_ hpasses⟩
    rw [step_quoted hmark, if_neg (fun hc => hunit (Or.inl hc)), if_neg hc, keep]

end SqlPrep.Comment
