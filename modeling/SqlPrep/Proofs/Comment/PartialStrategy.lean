import SqlPrep.Proofs.Comment.Continuation
import SqlPrep.Proofs.Comment.Lookahead

/-!
# Removing one kind of comment

A strategy that removes one kind of comment does not look for the other kind: it scans the body of a
comment that it keeps as ordinary text, where a marker of the removed kind opens a comment and a
quote mark opens a quote. So it removes what the scan for both kinds would call comments only as
long as the kept comments are inert: scanned alone, such a comment is kept whole, and no quote is
open after it when there is still something to remove.

The condition is the right one for each comment. Behind a comment that is not inert, some text is
treated differently from how the scan for both kinds divides it.
-/

namespace SqlPrep.Comment

/-- A comment of a kind that the strategy keeps. -/
def Segment.keptComment (strategy : Strategy) (g : Segment) : Bool :=
  g.removedBy .all && !g.removedBy strategy

/-- A text without any marker that opens a comment of a removed kind, in quotes or not. -/
def Unmarked (strategy : Strategy) (text : List Char) : Prop :=
  (strategy.removesOneline = true → ¬ ['-', '-'] <:+: text) ∧
    (strategy.removesMultiline = true → ¬ ['/', '*'] <:+: text)

/-- Each comment that the strategy keeps is kept whole when it is scanned alone, and it leaves no
quote open or no marker of a removed kind comes after it. -/
def InertComments (strategy : Strategy) : List Segment → Prop
  | [] => True
  | g :: back =>
    (g.keptComment strategy = true → (remove strategy g.text).text = g.text ∧
      ((remove strategy g.text).unterminated = none ∨ Unmarked strategy (joined back))) ∧
    InertComments strategy back

/-- A comment is kept whole when it is scanned alone, and leaves no quote open if it ends. -/
def Segment.Inert (strategy : Strategy) (g : Segment) : Prop :=
  (remove strategy g.text).text = g.text ∧
    (g.closed = true → (remove strategy g.text).unterminated = none)

variable {strategy : Strategy}

/-- A kept comment is not removed. -/
theorem removedBy_of_keptComment {g : Segment} (h : g.keptComment strategy = true) :
    g.removedBy strategy = false := by
  simpa using (Bool.and_eq_true_iff.mp h).2

/-- Looking for all comments opens the same region, unless it is a comment that the strategy
keeps. -/
theorem opened?_eq_all {c : Char} {rest : List Char}
    (h : ∀ region ∈ opened? .all c rest, region.isComment = true →
      region.removedBy strategy = true) :
    opened? strategy c rest = opened? .all c rest := by
  by_cases hline : ['-', '-'] <+: c :: rest
  · have hall : opened? .all c rest = some .lineComment := by
      rw [opened?, if_pos ⟨rfl, hline⟩]
    have hremoves : strategy.removesOneline = true := h .lineComment hall rfl
    rw [hall, opened?, if_pos ⟨hremoves, hline⟩]
  by_cases hblock : ['/', '*'] <+: c :: rest
  · have hall : opened? .all c rest = some .blockComment := by
      rw [opened?, if_neg (fun h => hline h.2), if_pos ⟨rfl, hblock⟩]
    have hremoves : strategy.removesMultiline = true := h .blockComment hall rfl
    rw [hall, opened?, if_neg (fun h => hline h.2), if_pos ⟨hremoves, hblock⟩]
  simp only [opened?, hline, hblock, and_false, ↓reduceIte]

/-- Looking for all comments cuts off the same first segment, unless it is a comment that the
strategy keeps. -/
theorem firstSegment_of_all {c : Char} {rest after : List Char} {g : Segment}
    (hfirst : firstSegment .all c rest = (g, after)) (h : g.keptComment strategy = false) :
    firstSegment strategy c rest = (g, after) := by
  have hopened : opened? strategy c rest = opened? .all c rest := by
    refine opened?_eq_all fun region hregion hcomment => ?_
    have hremoved := (opened?_eq_some hregion).2
    rw [← firstSegment_region hfirst] at hregion
    rw [Segment.keptComment, Segment.removedBy, Segment.removedBy, hregion, Option.any_some,
      Option.any_some, hremoved, hcomment, Bool.true_and] at h
    simpa using h
  rw [← hfirst]
  unfold firstSegment
  rw [hopened]

/-- The region of a kept comment is a comment that the strategy does not remove. -/
theorem region_of_keptComment {c : Char} {rest after : List Char} {g : Segment}
    (hfirst : firstSegment .all c rest = (g, after)) (hkeeps : g.keptComment strategy = true) :
    ∃ region, g.region = some region ∧ region.isComment = true ∧
      region.removedBy strategy = false := by
  rw [Segment.keptComment, Segment.removedBy, Segment.removedBy, Bool.and_eq_true,
    Bool.not_eq_true'] at hkeeps
  obtain ⟨region, hregion, hall⟩ := (Option.any_eq_true _ _).mp hkeeps.1
  refine ⟨region, hregion, ?_, ?_⟩
  · rw [firstSegment_region hfirst] at hregion
    rw [← (opened?_eq_some hregion).2, hall]
  · simpa [hregion] using hkeeps.2

/-- The strategy looks at nothing past the end of a comment that it keeps. -/
theorem separated_of_keptComment {c : Char} {rest after : List Char} {g : Segment}
    (hfirst : firstSegment .all c rest = (g, after)) (hkeeps : g.keptComment strategy = true) :
    Separated strategy g.text after := by
  obtain ⟨region, hregion, hcomment, hkept⟩ := region_of_keptComment hfirst hkeeps
  obtain ⟨-, rfl, -⟩ | ⟨region, -, ⟨inside, hsplit, rfl⟩ | ⟨-, -, rfl⟩⟩ := firstSegment_cases hfirst
  · cases hregion
  · cases hregion
    cases region with
    | lineComment => exact separated_of_lineFeed strategy _ (splitLine?_after hsplit)
    | blockComment =>
      obtain ⟨body, rfl⟩ := splitAfter?_suffix hsplit
      have hlooks : looksOn strategy '/' = false := by
        rw [looksOn, show strategy.removesMultiline = false from hkept]
        rfl
      refine Or.inl fun d hd => ?_
      rw [← List.append_assoc, List.getLast?_append] at hd
      cases hd
      exact hlooks
    | singleQuote | doubleQuote | dollarQuote tag => cases hcomment
  · exact separated_nil strategy _

/-- A scan that leaves nothing open ends as it began. -/
theorem endState_of_terminated (hstrategy : strategy ≠ .none) {text : List Char}
    (h : (remove strategy text).unterminated = none) :
    endState {} (moves strategy {} text) = {} := by
  rw [remove_unterminated hstrategy, ScanState.unterminated?, ite_eq_right_iff] at h
  have hclosed : ((endState {} (moves strategy {} text)).inComment ||
      (endState {} (moves strategy {} text)).inQuote) = false := by simpa using h
  rw [Bool.or_eq_false_iff] at hclosed
  exact endState_of_outside hclosed.2 hclosed.1

/-- A later part of a text without markers has none. -/
theorem Unmarked.of_suffix {text tail : List Char} (h : Unmarked strategy text)
    (hsuffix : tail <:+ text) : Unmarked strategy tail :=
  ⟨fun hremoves hline => h.1 hremoves (hline.trans hsuffix.isInfix),
    fun hremoves hblock => h.2 hremoves (hblock.trans hsuffix.isInfix)⟩

/-- No comment of a removed kind opens in a text without its marker, whatever else is looked for. -/
theorem Unmarked.removedBy_eq_false {c : Char} {rest : List Char}
    (h : Unmarked strategy (c :: rest)) {cutter : Strategy} {region : Region}
    (hopened : opened? cutter c rest = some region) : region.removedBy strategy = false := by
  have hprefix : region.opening <+: c :: rest := ⟨_, opening_append_drop hopened⟩
  cases region with
  | lineComment => exact Bool.eq_false_iff.mpr fun hremoves => h.1 hremoves hprefix.isInfix
  | blockComment => exact Bool.eq_false_iff.mpr fun hremoves => h.2 hremoves hprefix.isInfix
  | singleQuote | doubleQuote | dollarQuote tag => rfl

/-- A text without markers of the removed kinds is kept, however it is cut. -/
theorem Unmarked.keptText_segments {cutter : Strategy} {text : List Char}
    (h : Unmarked strategy text) : keptText strategy (segments cutter text) = text := by
  induction text using segments_induction cutter with
  | nil => rw [segments_nil]; rfl
  | cons c rest g after hfirst ih =>
    have happend := firstSegment_append hfirst
    have hkept : g.removedBy strategy = false := by
      rw [Segment.removedBy, firstSegment_region hfirst]
      cases hopened : opened? cutter c rest with
      | none => rfl
      | some region => exact h.removedBy_eq_false hopened
    rw [segments_cons hfirst, keptText_cons, hkept, if_neg Bool.false_ne_true,
      ih (h.of_suffix ⟨g.text, happend⟩), happend]

/-- Outside comments, a step keeps the character if no marker of a removed kind begins there. -/
theorem Unmarked.step_kept {st : ScanState} (hst : st.fault? = none) (hout : st.inComment = false)
    {c : Char} {rest : List Char} (h : Unmarked strategy (c :: rest)) :
    (step strategy st c rest).kept = true := by
  have hdropped := (step_sound hst strategy c rest).dropped
  obtain ⟨region, pending, rfl⟩ := (fault?_eq_none_iff st).mp hst
  obtain ⟨next, pending', hafter, hnext⟩ := step_next strategy region pending c rest
  have hstays : (stateIn next).inComment = false := by
    rcases hnext with rfl | rfl | rfl
    · exact hout
    · rfl
    · cases hopened : opened? strategy c rest with
      | none => rfl
      | some opened =>
        rw [stateIn, opened.inComment_state, ← (opened?_eq_some hopened).2,
          h.removedBy_eq_false hopened]
  refine Bool.of_not_eq_false fun hkept => ?_
  rcases hdropped hkept with hbefore | hcomment
  · rw [hout] at hbefore
    cases hbefore
  · rw [hafter] at hcomment
    cases hstays.symm.trans hcomment

/-- Outside comments, the scan keeps a text without markers of the removed kinds. -/
theorem Unmarked.moves_kept {st : ScanState} (hst : st.fault? = none) (hout : st.inComment = false)
    {text : List Char} (h : Unmarked strategy text) :
    ∀ m ∈ moves strategy st text, m.kept = true := by
  fun_induction moves strategy st text with
  | case1 => simp
  | case2 st c rest s ih =>
    have hsound := step_sound hst strategy c rest
    have hkept : s.kept = true := h.step_kept hst hout
    have hsuffix := (List.drop_suffix s.extra rest).trans (List.suffix_cons c rest)
    exact List.forall_mem_cons.mpr
      ⟨hkept, ih hsound.after_valid (hsound.entered hkept) (h.of_suffix hsuffix)⟩

/-- A scan that keeps a text whole ends outside comments. -/
theorem inComment_of_unchanged {text : List Char} (hsame : (remove strategy text).text = text) :
    (endState {} (moves strategy {} text)).inComment = false :=
  inComment_endState_of_kept rfl rfl (remove_text_eq_self_iff_kept.mp hsame)

/-- If the comments that it keeps are inert, the scan under a strategy puts out all but the comments
of the removed kinds that the scan for all comments finds. -/
theorem emitted_eq_keptText_all (hstrategy : strategy ≠ .none) {sql : List Char}
    (h : InertComments strategy (segments .all sql)) :
    emitted (moves strategy {} sql) = keptText strategy (segments .all sql) := by
  induction sql using segments_induction .all with
  | nil => rw [moves_nil, segments_nil]; rfl
  | cons c rest g after hfirst ih =>
    rw [segments_cons hfirst] at h ⊢
    rw [keptText_cons]
    cases hkeeps : g.keptComment strategy with
    | false =>
      obtain ⟨ms, hmoves, -, hemitted⟩ := moves_firstSegment (firstSegment_of_all hfirst hkeeps)
      rw [hmoves, emitted_append, hemitted, ih h.2]
    | true =>
      obtain ⟨hunchanged, hended⟩ := h.1 hkeeps
      have htext : emitted (moves strategy {} g.text) = g.text := by
        rw [← remove_text_eq_emitted, hunchanged]
      rw [← firstSegment_append hfirst, moves_append rfl (separated_of_keptComment hfirst hkeeps),
        emitted_append, htext, removedBy_of_keptComment hkeeps, if_neg Bool.false_ne_true]
      rcases hended with hended | hunmarked
      · rw [endState_of_terminated hstrategy hended, ih h.2]
      · -- A quote may be open now, but nothing can be removed any more on either side.
        rw [joined_segments] at hunmarked
        have hvalid := (endState_start_sound strategy g.text).1
        have hkept := hunmarked.moves_kept hvalid (inComment_of_unchanged hunchanged)
        rw [emitted_of_kept hkept, taken_moves hvalid, hunmarked.keptText_segments]

/-- Inside quotes, a character that is neither a backslash nor a mark is kept and changes
nothing. -/
theorem step_plain {region : Region} (hregion : region.isComment = false) {c : Char}
    (hc : c ∉ ['\\', '\'', '"', '$']) (strategy : Strategy) (rest : List Char) :
    step strategy region.state c rest = keep 0 region.state := by
  simp only [List.mem_cons, List.not_mem_nil, or_false, not_or] at hc
  cases region with
  | lineComment | blockComment => cases hregion
  | singleQuote => rw [step_quoted rfl, if_neg hc.1, if_neg hc.2.1]
  | doubleQuote => rw [step_quoted rfl, if_neg hc.1, if_neg hc.2.2.1]
  | dollarQuote tag => rw [step_dollarQuote, if_neg (fun h => hc.2.2.2 h.1)]

/-- Inside quotes, the scan keeps a text without backslashes and marks and stays where it is. -/
theorem passes_plain (strategy : Strategy) {region : Region} (hregion : region.isComment = false)
    {text : List Char} (h : ∀ c ∈ text, c ∉ ['\\', '\'', '"', '$']) :
    Passes strategy true region.state text region.state [] := by
  induction text with
  | nil => exact Passes.refl []
  | cons c rest ih =>
    obtain ⟨hc, hrest⟩ := List.forall_mem_cons.mp h
    exact Passes.head 0 region.state (step_plain hregion hc strategy rest) (ih hrest)

/-- An open quote keeps a line feed and the opening of a comment after it. -/
theorem emitted_quoted {region : Region} (hregion : region.isComment = false) (pending : Bool)
    {opening : List Char} (h : ∀ c ∈ opening, c ∉ ['\\', '\'', '"', '$']) :
    emitted (moves strategy (region.state.withEscape pending) ('\n' :: opening)) =
      '\n' :: opening := by
  have htail := passes_plain strategy hregion h
  have hpasses : Passes strategy true (region.state.withEscape pending) ('\n' :: opening)
      region.state [] := by
    cases pending with
    | true => exact Passes.escaped hregion htail
    | false =>
      rw [show region.state.withEscape false = region.state from withEscape_false (some region)]
      exact Passes.head 0 region.state (step_plain hregion (by decide) strategy opening) htail
  obtain ⟨ms, hmoves, htaken, hkept, -⟩ := hpasses
  rw [hmoves, moves_nil, List.append_nil, emitted_of_kept hkept]
  simpa using htaken

/-- A comment that ends is cut again in front of every text that begins with a line feed. -/
theorem segments_keptComment {c : Char} {rest after after' : List Char} {g : Segment}
    (hfirst : firstSegment .all c rest = (g, after)) (hkeeps : g.keptComment strategy = true)
    (hclosed : g.closed = true) (hfeed : after'.head? = some '\n') :
    segments .all (g.text ++ after') = g :: segments .all after' := by
  obtain ⟨region, hregion, hcomment, -⟩ := region_of_keptComment hfirst hkeeps
  refine segments_exchange hfirst ?_ ?_ ?_
  · intro hnone
    rw [hregion] at hnone
    cases hnone
  · intro region' hregion' _
    rw [hregion] at hregion'
    cases hregion'
    cases region with
    | lineComment => exact hfeed
    | blockComment => trivial
    | singleQuote | doubleQuote | dollarQuote tag => cases hcomment
  · intro hopen
    rw [hclosed] at hopen
    cases hopen

/-- A scan that keeps a text whole and leaves something open ends inside quotes. -/
theorem endState_of_unterminated {text : List Char} (hsame : (remove strategy text).text = text)
    (hopen : (remove strategy text).unterminated ≠ none) :
    ∃ region : Region, region.isComment = false ∧
      ∃ pending, endState {} (moves strategy {} text) = region.state.withEscape pending := by
  have hstrategy : strategy ≠ .none := by
    rintro rfl
    exact hopen rfl
  have hsound := endState_start_sound strategy text
  have hcomment := inComment_of_unchanged hsame
  obtain ⟨region, pending, hend⟩ := (fault?_eq_none_iff _).mp hsound.1
  rw [remove_unterminated hstrategy, hend] at hopen
  rw [hend] at hcomment
  cases region with
  | none => exact absurd rfl hopen
  | some region =>
    refine ⟨region, ?_, pending, hend⟩
    rw [← region.inComment_state]
    exact hcomment

/-- A strategy that keeps some comment and can leave a quote open removes one kind of comment. -/
theorem eq_oneline_or_multiline {g : Segment} (hkeeps : g.keptComment strategy = true)
    (hopen : (remove strategy g.text).unterminated ≠ none) :
    strategy = .oneline ∨ strategy = .multiline := by
  cases strategy with
  | none => exact absurd rfl hopen
  | oneline => exact Or.inl rfl
  | multiline => exact Or.inr rfl
  | all => simp [Segment.keptComment] at hkeeps

/-- After a kept comment that leaves a quote open, the opening of a comment is not recognized. -/
theorem misread_of_unterminated {c : Char} {rest after : List Char} {g : Segment}
    (hfirst : firstSegment .all c rest = (g, after)) (hkeeps : g.keptComment strategy = true)
    (hclosed : g.closed = true) (hsame : (remove strategy g.text).text = g.text)
    (hopen : (remove strategy g.text).unterminated ≠ none) :
    ∃ sql, (segments .all sql).head? = some g ∧
      (remove strategy sql).text ≠ keptText strategy (segments .all sql) := by
  obtain ⟨region, hregion, pending, hend⟩ := endState_of_unterminated hsame hopen
  obtain ⟨opening, hplain, hremoved⟩ : ∃ opening : List Char,
      (∀ d ∈ opening, d ∉ ['\\', '\'', '"', '$']) ∧
      keptText strategy (segments .all ('\n' :: opening)) ≠ '\n' :: opening := by
    rcases eq_oneline_or_multiline hkeeps hopen with rfl | rfl
    · exact ⟨['-', '-'], by simp, by decide +kernel⟩
    · exact ⟨['/', '*'], by simp, by decide +kernel⟩
  have hfeed : ('\n' :: opening).head? = some '\n' := rfl
  have hsegments := segments_keptComment hfirst hkeeps hclosed hfeed
  refine ⟨g.text ++ '\n' :: opening, by rw [hsegments, List.head?_cons], ?_⟩
  rw [hsegments, keptText_cons, removedBy_of_keptComment hkeeps, if_neg Bool.false_ne_true,
    remove_text_eq_emitted, moves_append rfl (separated_of_lineFeed strategy _ rfl),
    emitted_append, ← remove_text_eq_emitted, hsame, hend, emitted_quoted hregion pending hplain]
  intro heq
  exact hremoved (List.append_cancel_left heq).symm

/-- A line feed is no comment. -/
theorem keptText_lineFeed (strategy : Strategy) :
    keptText strategy (segments .all ['\n']) = ['\n'] := by
  have hsegments : segments .all ['\n'] = [⟨none, ['\n'], true⟩] := by decide +kernel
  rw [hsegments]
  rfl

/-- A kept comment that is changed when it is scanned alone is also changed at the end of a text, or
in front of a line feed. -/
theorem misread_of_changed {c : Char} {rest after : List Char} {g : Segment}
    (hfirst : firstSegment .all c rest = (g, after)) (hkeeps : g.keptComment strategy = true)
    (hchanged : (remove strategy g.text).text ≠ g.text) :
    ∃ sql, (segments .all sql).head? = some g ∧
      (remove strategy sql).text ≠ keptText strategy (segments .all sql) := by
  obtain ⟨after', hsegments, hseparated, hafter⟩ : ∃ after',
      segments .all (g.text ++ after') = g :: segments .all after' ∧
      Separated strategy g.text after' ∧ keptText strategy (segments .all after') = after' := by
    cases hclosed : g.closed with
    | false =>
      have hnil := after_of_open hfirst hclosed
      have happend := firstSegment_append hfirst
      refine ⟨[], ?_, separated_nil strategy _, by rw [segments_nil]; rfl⟩
      rw [← hnil, happend, segments_cons hfirst]
    | true =>
      exact ⟨['\n'], segments_keptComment hfirst hkeeps hclosed rfl,
        separated_of_lineFeed strategy _ rfl, keptText_lineFeed strategy⟩
  refine ⟨g.text ++ after', by rw [hsegments, List.head?_cons], ?_⟩
  rw [hsegments, keptText_cons, removedBy_of_keptComment hkeeps, if_neg Bool.false_ne_true, hafter,
    remove_text_eq_emitted, moves_append rfl hseparated, emitted_append]
  rw [remove_text_eq_emitted] at hchanged
  intro heq
  have hvalid := (endState_start_sound strategy g.text).1
  have hfront : (emitted (moves strategy {} g.text)).Sublist g.text := emitted_sublist rfl g.text
  have hback : (emitted (moves strategy (endState {} (moves strategy {} g.text)) after')).length ≤
      after'.length := (emitted_sublist hvalid after').length_le
  have hlength := congrArg List.length heq
  rw [List.length_append, List.length_append] at hlength
  exact hchanged (hfront.eq_of_length_le (by omega))

/-- Behind some comment that is not inert, a strategy does not remove what the scan for all comments
finds. -/
theorem exists_misread {sql : List Char} {g : Segment} (hmem : g ∈ segments .all sql)
    (hkeeps : g.keptComment strategy = true) (hinert : ¬ g.Inert strategy) :
    ∃ sql', (segments .all sql').head? = some g ∧
      (remove strategy sql').text ≠ keptText strategy (segments .all sql') := by
  obtain ⟨c, rest, after, hfirst⟩ := eq_firstSegment_of_mem hmem
  by_cases hsame : (remove strategy g.text).text = g.text
  · rw [Segment.Inert, not_and, Classical.not_imp] at hinert
    exact misread_of_unterminated hfirst hkeeps (hinert hsame).1 hsame (hinert hsame).2
  · exact misread_of_changed hfirst hkeeps hsame

/-- If the comments that it keeps are inert, a strategy removes the comments of its kinds that the
scan for all comments finds, and nothing else. For a kept comment that is not inert, this fails for
some text that begins with it. -/
theorem removeComments_eq_of_inert (strategy : Strategy) (sql : String) :
    (InertComments strategy (segments .all sql.toList) →
      removeComments strategy sql = String.ofList (keptText strategy (segments .all sql.toList))) ∧
    ∀ g ∈ segments .all sql.toList, g.keptComment strategy = true → ¬ g.Inert strategy →
      ∃ sql' : String, (segments .all sql'.toList).head? = some g ∧
        removeComments strategy sql' ≠
          String.ofList (keptText strategy (segments .all sql'.toList)) := by
  constructor
  · intro hinert
    by_cases hstrategy : strategy = .none
    · rw [hstrategy, keptText_none, joined_segments]
      rfl
    · rw [removeComments, remove_text_eq_emitted, emitted_eq_keptText_all hstrategy hinert]
  · intro g hmem hkeeps hinert
    obtain ⟨text, hhead, hne⟩ := exists_misread hmem hkeeps hinert
    refine ⟨String.ofList text, by rwa [String.toList_ofList], ?_⟩
    rw [removeComments, String.toList_ofList]
    exact fun heq => hne (String.ofList_injective heq)

/-- Both parts at work: the first text has an inert block comment in front of a removed line
comment, and the second begins with a block comment that is not inert. -/
theorem removeComments_oneline_block :
    removeComments .oneline "a/*b*/--c" = "a/*b*/" ∧
      ∃ sql : String, (segments .all sql.toList).head? =
          some ⟨some .blockComment, "/*--*/".toList, true⟩ ∧
        removeComments .oneline sql ≠
          String.ofList (keptText .oneline (segments .all sql.toList)) := by
  have hsegments : segments .all "a/*b*/--c".toList =
      [⟨none, ['a'], true⟩, ⟨some .blockComment, "/*b*/".toList, true⟩,
        ⟨some .lineComment, "--c".toList, false⟩] := by decide +kernel
  have hinert : InertComments .oneline (segments .all "a/*b*/--c".toList) := by
    rw [hsegments]
    refine ⟨fun hkeeps => ?_, fun _ => ⟨?_, Or.inl ?_⟩, fun hkeeps => ?_, trivial⟩
    · cases hkeeps
    · decide +kernel
    · decide +kernel
    · cases hkeeps
  have hfront := (removeComments_eq_of_inert .oneline "a/*b*/--c").1 hinert
  refine ⟨hfront.trans (by decide +kernel), ?_⟩
  refine (removeComments_eq_of_inert .oneline "/*--*/").2 _ (by decide +kernel) (by decide +kernel) ?_
  exact fun h => absurd h.1 (by decide +kernel)

/-- What a strategy removes does depend on the comments that it keeps: a line marker in a block
comment, a block marker in a line comment and a quote mark in a comment of either kind all change
it. -/
theorem removeComments_misread :
    removeComments .oneline "/*--*/x" = "/*" ∧
      String.ofList (keptText .oneline (segments .all "/*--*/x".toList)) = "/*--*/x" ∧
    removeComments .multiline "--/*\nx" = "--" ∧
      String.ofList (keptText .multiline (segments .all "--/*\nx".toList)) = "--/*\nx" ∧
    removeComments .oneline "/*'*/--x" = "/*'*/--x" ∧
      String.ofList (keptText .oneline (segments .all "/*'*/--x".toList)) = "/*'*/" ∧
    removeComments .multiline "--'\n/*x*/" = "--'\n/*x*/" ∧
      String.ofList (keptText .multiline (segments .all "--'\n/*x*/".toList)) = "--'\n" := by
  decide +kernel

end SqlPrep.Comment
