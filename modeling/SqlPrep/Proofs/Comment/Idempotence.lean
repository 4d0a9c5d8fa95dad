import SqlPrep.Proofs.Comment.Continuation

/-!
# Removing comments twice

A removed block comment can bring two characters together that the scan then reads as one marker: a
second removal finds a comment that was not there. Nothing else can go wrong. If each removed block
comment stands at the start of the result or behind a character that joins with nothing, the result
is cut into the very segments that were kept, and removing comments from it changes nothing.

A removed line comment needs no condition, since its line feed stays between its neighbours.
-/

namespace SqlPrep.Comment

/-- A character that can be read together with the next one: in a marker, as one of two doubled
marks or in a dollar delimiter. -/
def joins (c : Char) : Bool :=
  c == '-' || c == '/' || c == '\'' || c == '"' || c == '$' || isTagChar c

/-- Wherever moves from a state open a block comment, nothing has been put out yet or the last
character put out joins with nothing. -/
def JoinFree (st : ScanState) (done : List Char) : List Move → Prop
  | [] => True
  | m :: ms =>
    (st.blockComment = false → m.after.blockComment = true → done.getLast?.any joins = false) ∧
    JoinFree m.after (done ++ m.emitted) ms

/-- Joining is decided move by move. -/
instance decidableJoinFree : ∀ (st : ScanState) (done : List Char) (ms : List Move),
    Decidable (JoinFree st done ms)
  | _, _, [] => inferInstanceAs (Decidable True)
  | st, done, m :: ms =>
    have := decidableJoinFree m.after (done ++ m.emitted) ms
    inferInstanceAs (Decidable ((st.blockComment = false → m.after.blockComment = true →
      done.getLast?.any joins = false) ∧ JoinFree m.after (done ++ m.emitted) ms))

/-- The quote flags and the dollar tag of a state. -/
def ScanState.quotePart (st : ScanState) : ScanState :=
  { st with lineComment := false, blockComment := false, escapePending := false }

variable {strategy : Strategy}

/-- Moves in a row are free of joins when both parts are. -/
theorem joinFree_append {st : ScanState} {done : List Char} {ms ns : List Move} :
    JoinFree st done (ms ++ ns) ↔
      JoinFree st done ms ∧ JoinFree (endState st ms) (done ++ emitted ms) ns := by
  induction ms generalizing st done with
  | nil => simp [JoinFree, endState, emitted]
  | cons m ms ih =>
    rw [List.cons_append, JoinFree, JoinFree, ih, and_assoc, endState, List.append_assoc, emitted,
      emitted, List.flatMap_cons]

/-- Of the state that moves start in, only the block comment flag matters. -/
theorem JoinFree.of_blockComment {st st' : ScanState} {done : List Char} {ms : List Move}
    (h : JoinFree st done ms) (hblock : st'.blockComment = st.blockComment) :
    JoinFree st' done ms := by
  cases ms with
  | nil => trivial
  | cons m ms => exact ⟨fun hst' => h.1 (hblock ▸ hst'), h.2⟩

/-- A block comment at the start of a text joins nothing. -/
theorem JoinFree.block {done : List Char} {c : Char} {rest after : List Char} {g : Segment}
    (h : JoinFree {} done (moves strategy {} (c :: rest)))
    (hfirst : firstSegment strategy c rest = (g, after)) (hblock : g.region = some .blockComment) :
    done.getLast?.any joins = false := by
  rw [firstSegment_region hfirst] at hblock
  rw [moves_cons, step_outside, hblock] at h
  exact h.1 rfl rfl

/-- The text after the first segment is free of joins too. -/
theorem JoinFree.tail {done : List Char} {c : Char} {rest after : List Char} {g : Segment}
    (h : JoinFree {} done (moves strategy {} (c :: rest)))
    (hfirst : firstSegment strategy c rest = (g, after)) :
    JoinFree {} (done ++ if g.removedBy strategy then [] else g.text) (moves strategy {} after) := by
  obtain ⟨ms, hmoves, hblock, hemitted⟩ := moves_firstSegment hfirst
  rw [hmoves, joinFree_append, hemitted] at h
  cases after with
  | nil => rw [moves_nil]; trivial
  | cons d after =>
    refine h.2.of_blockComment (Bool.eq_false_iff.mpr ?_).symm
    exact fun hopen => List.cons_ne_nil d after (hblock hopen)

/-- Behind a character that joins, a removed first segment is a line comment. -/
theorem JoinFree.line_of_removed {done : List Char} {c : Char} {rest after : List Char} {g : Segment}
    (h : JoinFree {} done (moves strategy {} (c :: rest)))
    (hfirst : firstSegment strategy c rest = (g, after)) {e : Char} (he : e ∈ done.getLast?)
    (hjoins : joins e = true) (hremoved : g.removedBy strategy = true) :
    g.region = some .lineComment := by
  refine (region_of_removed hremoved).resolve_right fun hblock => ?_
  have hfree := h.block hfirst hblock
  rw [Option.mem_def.mp he, Option.any_some, hjoins] at hfree
  cases hfree

/-- Behind a character that joins, what is kept begins as the text does or with a line feed. -/
theorem JoinFree.head?_keptText {done text : List Char}
    (h : JoinFree {} done (moves strategy {} text)) {e : Char} (he : e ∈ done.getLast?)
    (hjoins : joins e = true) :
    ∀ d ∈ (keptText strategy (segments strategy text)).head?, d = '\n' ∨ text.head? = some d := by
  intro d hd
  cases text with
  | nil => rw [segments_nil] at hd; cases hd
  | cons c rest =>
    cases hfirst : firstSegment strategy c rest with
    | mk g after =>
      rw [segments_cons hfirst, keptText_cons] at hd
      cases hremoved : g.removedBy strategy with
      | false =>
        obtain ⟨tail, htext⟩ := firstSegment_text_eq_cons hfirst
        rw [hremoved, if_neg Bool.false_ne_true, htext] at hd
        exact Or.inr hd
      | true =>
        rw [hremoved, if_pos rfl, List.nil_append] at hd
        have hline := h.line_of_removed hfirst he hjoins hremoved
        exact Or.inl (head?_keptText_of_lineComment hfirst hline d hd)

/-- No tag is read before a character that is neither a tag character nor a dollar sign. -/
theorem dollarTag?_eq_none_of_head? {text : List Char}
    (h : ∀ d ∈ text.head?, isTagChar d = false ∧ d ≠ '$') : dollarTag? text = none := by
  cases text with
  | nil => rfl
  | cons d text => simp [dollarTag?, h d rfl]

/-- A tag character is read in front of a tag. -/
theorem dollarTag?_cons {c : Char} (hc : isTagChar c = true) (text : List Char) :
    dollarTag? (c :: text) = (dollarTag? text).map (c :: ·) := by
  have hdollar : c ≠ '$' := by
    rintro rfl
    exact absurd hc (by decide)
  rw [← tagAfter?_eq_dollarTag?, ← tagAfter?_eq_dollarTag?, tagAfter?, if_neg hdollar, if_pos hc]

/-- A tag character opens nothing. -/
theorem opened?_of_isTagChar {c : Char} (hc : isTagChar c = true) (rest : List Char) :
    opened? strategy c rest = none := by
  have hne {d : Char} (hd : isTagChar d = false) : c ≠ d := by
    rintro rfl
    rw [hc] at hd
    cases hd
  exact opened?_eq_none_iff.mpr ⟨fun h => hne (by decide) h.2.1, fun h => hne (by decide) h.2.1,
    hne (by decide), hne (by decide), fun h => absurd h (hne (by decide))⟩

/-- Behind a dollar sign or a part of a tag, no tag is read in what is kept if none is read in the
text. -/
theorem JoinFree.dollarTag?_keptText {done text : List Char}
    (h : JoinFree {} done (moves strategy {} text)) {e : Char} (he : e ∈ done.getLast?)
    (hjoins : joins e = true) (htag : dollarTag? text = none) :
    dollarTag? (keptText strategy (segments strategy text)) = none := by
  induction text using segments_induction strategy generalizing done e with
  | nil => rw [segments_nil]; rfl
  | cons c rest g after hfirst ih =>
    have htail := h.tail hfirst
    rw [segments_cons hfirst, keptText_cons]
    cases hremoved : g.removedBy strategy with
    | true =>
      have hline := h.line_of_removed hfirst he hjoins hremoved
      rw [if_pos rfl, List.nil_append]
      refine dollarTag?_eq_none_of_head? fun d hd => ?_
      rw [head?_keptText_of_lineComment hfirst hline d hd]
      decide
    | false =>
      rw [hremoved, if_neg Bool.false_ne_true] at htail
      rw [if_neg Bool.false_ne_true]
      by_cases hc : isTagChar c = true
      · rw [firstSegment, opened?_of_isTagChar hc] at hfirst
        cases hfirst
        rw [dollarTag?_cons hc, Option.map_eq_none_iff] at htag
        rw [List.singleton_append, dollarTag?_cons hc, Option.map_eq_none_iff]
        exact ih htail (e := c) (by simp) (by simp [joins, hc]) htag
      · obtain ⟨tail, htext⟩ := firstSegment_text_eq_cons hfirst
        refine dollarTag?_eq_none_of_head? fun d hd => ?_
        rw [htext] at hd
        cases hd
        refine ⟨by simpa using hc, ?_⟩
        rintro rfl
        simp [dollarTag?, show isTagChar '$' = false by decide] at htag

/-- A plain character stays plain in front of what is kept of the text after it. -/
theorem JoinFree.opened?_keptText {done : List Char} {c : Char} {rest : List Char}
    (h : JoinFree {} (done ++ [c]) (moves strategy {} rest))
    (hopened : opened? strategy c rest = none) :
    opened? strategy c (keptText strategy (segments strategy rest)) = none := by
  have hlast : c ∈ (done ++ [c]).getLast? := by simp
  obtain ⟨hline, hblock, hsingle, hdouble, hdollar⟩ := opened?_eq_none_iff.mp hopened
  refine opened?_eq_none_iff.mpr ⟨?_, ?_, hsingle, hdouble, ?_⟩
  · rintro ⟨hremoves, rfl, hnext⟩
    rcases h.head?_keptText hlast rfl _ hnext with hfeed | hsame
    · cases hfeed
    · exact hline ⟨hremoves, rfl, hsame⟩
  · rintro ⟨hremoves, rfl, hnext⟩
    rcases h.head?_keptText hlast rfl _ hnext with hfeed | hsame
    · cases hfeed
    · exact hblock ⟨hremoves, rfl, hsame⟩
  · rintro rfl
    exact h.dollarTag?_keptText hlast rfl (hdollar rfl)

/-- A kept region also ends before what is kept of the text after it. -/
theorem JoinFree.endsBefore {done : List Char} {region : Region} {body inside after : List Char}
    (hcomment : region.isComment = false) (hsplit : region.split? body = some (inside, after))
    (h : JoinFree {} (done ++ inside) (moves strategy {} after)) :
    region.EndsBefore (keptText strategy (segments strategy after)) := by
  have hquoted {mark : Char} (hmark : joins mark = true) (hfeed : mark ≠ '\n')
      (hquote : splitQuote? mark body = some (inside, after)) :
      (keptText strategy (segments strategy after)).head? ≠ some mark := by
    intro hnext
    have hlast : mark ∈ (done ++ inside).getLast? := by
      rw [List.getLast?_append, splitQuote?_getLast? hquote]
      rfl
    rcases h.head?_keptText hlast hmark mark hnext with hmark | hsame
    · exact hfeed hmark
    · exact splitQuote?_after hquote hsame
  cases region with
  | lineComment | blockComment => cases hcomment
  | singleQuote => exact hquoted rfl (by decide) hsplit
  | doubleQuote => exact hquoted rfl (by decide) hsplit
  | dollarQuote tag => trivial

/-- A kept first segment is cut again in front of what is kept of the text after it. -/
theorem JoinFree.segments_kept {done : List Char} {c : Char} {rest after : List Char} {g : Segment}
    (h : JoinFree {} done (moves strategy {} (c :: rest)))
    (hfirst : firstSegment strategy c rest = (g, after)) (hkept : g.removedBy strategy = false) :
    segments strategy (g.text ++ keptText strategy (segments strategy after)) =
      g :: segments strategy (keptText strategy (segments strategy after)) := by
  have htail := h.tail hfirst
  rw [hkept, if_neg Bool.false_ne_true] at htail
  refine segments_exchange hfirst ?_ ?_ ?_
  · intro hnone
    have hopened := (firstSegment_region hfirst).symm.trans hnone
    obtain ⟨-, rfl, rfl⟩ | ⟨region, hregion, -⟩ := firstSegment_cases hfirst
    · exact htail.opened?_keptText hopened
    · rw [hopened] at hregion
      cases hregion
  · intro region hregion hclosed
    have hopened := (firstSegment_region hfirst).symm.trans hregion
    have hcomment : region.isComment = false := by
      rw [← (opened?_eq_some hopened).2]
      simpa [Segment.removedBy, hregion] using hkept
    obtain ⟨-, rfl, -⟩ | ⟨region', -, ⟨inside, hsplit, rfl⟩ | ⟨-, rfl, -⟩⟩ :=
      firstSegment_cases hfirst
    · cases hregion
    · cases hregion
      rw [← List.append_assoc] at htail
      exact htail.endsBefore hcomment hsplit
    · cases hclosed
  · intro hopen
    rw [after_of_open hfirst hopen, segments_nil]
    rfl

/-- If no removed block comment joins two characters, the result is cut into the segments that were
kept. -/
theorem JoinFree.segments_keptText {done text : List Char}
    (h : JoinFree {} done (moves strategy {} text)) :
    segments strategy (keptText strategy (segments strategy text)) =
      (segments strategy text).filter fun g => !g.removedBy strategy := by
  induction text using segments_induction strategy generalizing done with
  | nil => rw [segments_nil]; exact segments_nil strategy
  | cons c rest g after hfirst ih =>
    have hrest := ih (h.tail hfirst)
    rw [segments_cons hfirst, keptText_cons, List.filter_cons]
    cases hremoved : g.removedBy strategy with
    | true => simpa using hrest
    | false =>
      rw [if_neg Bool.false_ne_true, h.segments_kept hfirst hremoved, hrest]
      rfl

/-- Every segment but the last ends. -/
theorem closed_of_mem_dropLast {text : List Char} {g : Segment}
    (h : g ∈ (segments strategy text).dropLast) : g.closed = true := by
  induction text using segments_induction strategy with
  | nil => rw [segments_nil] at h; cases h
  | cons c rest g' after hfirst ih =>
    rw [segments_cons hfirst] at h
    cases hrest : segments strategy after with
    | nil => rw [hrest] at h; cases h
    | cons g'' tail =>
      rw [hrest] at ih h
      rcases List.mem_cons.mp h with rfl | hmem
      · refine Bool.of_not_eq_false fun hopen => ?_
        rw [after_of_open hfirst hopen, segments_nil] at hrest
        cases hrest
      · exact ih hmem

/-- The quote part of the state that a text leaves depends on its open region only. -/
theorem quotePart_endState (strategy : Strategy) (text : List Char) :
    (endState {} (moves strategy {} text)).quotePart =
      (stateIn (openRegion? (segments strategy text))).quotePart := by
  obtain ⟨pending, hend⟩ := endState_moves strategy text
  rw [hend]
  rcases openRegion? (segments strategy text) with _ | (_ | _ | _ | _ | tag) <;> rfl

/-- A text ends inside the region of its last segment. -/
theorem openRegion?_concat (front : List Segment) (last : Segment) :
    openRegion? (front ++ [last]) = last.open? := by
  rw [openRegion?, List.getLast?_append]
  rfl

/-- Segments that all end leave no region open. -/
theorem openRegion?_of_closed {segments : List Segment} (h : ∀ g ∈ segments, g.closed = true) :
    openRegion? segments = none := by
  rw [openRegion?, Option.bind_eq_none_iff]
  intro g hg
  rw [Segment.open?, if_pos (h g (List.mem_of_getLast? hg))]

/-- An open comment leaves no quote open. -/
theorem quotePart_of_removed {g : Segment} (h : g.removedBy strategy = true) :
    (stateIn g.open?).quotePart = {} := by
  rw [Segment.open?]
  split
  · rfl
  · rcases region_of_removed h with hregion | hregion <;> rw [hregion] <;> rfl

/-- The segments of a text and those of them that are kept leave the same quotes open. -/
theorem quotePart_openRegion? (strategy : Strategy) (text : List Char) :
    (stateIn (openRegion? ((segments strategy text).filter
      fun g => !g.removedBy strategy))).quotePart =
      (stateIn (openRegion? (segments strategy text))).quotePart := by
  rcases List.eq_nil_or_concat (segments strategy text) with hnil | ⟨front, last, hsegments⟩
  · rw [hnil, List.filter_nil]
  · have hfront : ∀ g ∈ front, g.closed = true := by
      intro g hg
      have hmem : g ∈ (segments strategy text).dropLast := by simpa [hsegments] using hg
      exact closed_of_mem_dropLast hmem
    rw [hsegments, List.concat_eq_append, List.filter_append, openRegion?_concat]
    cases hremoved : last.removedBy strategy with
    | false =>
      rw [List.filter_cons, hremoved, Bool.not_false, if_pos rfl, List.filter_nil,
        openRegion?_concat]
    | true =>
      rw [quotePart_of_removed hremoved, List.filter_cons, hremoved, Bool.not_true,
        if_neg Bool.false_ne_true, List.filter_nil, List.append_nil,
        openRegion?_of_closed fun g hg => hfront g (List.mem_filter.mp hg).1]
      rfl

/-- If no removed block comment joins two characters, a second removal changes nothing. -/
theorem JoinFree.remove_remove {sql : List Char} (h : JoinFree {} [] (moves strategy {} sql)) :
    (remove strategy (remove strategy sql).text).text = (remove strategy sql).text := by
  rw [remove_text_eq, remove_text_eq, keptText, h.segments_keptText, List.filter_filter]
  simp only [Bool.and_self]
  rfl

/-- If no removed block comment joins two characters, the scan of the result meets no comment. -/
theorem JoinFree.inComment_of_mem {sql : List Char} (h : JoinFree {} [] (moves strategy {} sql))
    {m : Move} (hm : m ∈ moves strategy {} (remove strategy sql).text) :
    m.after.inComment = false :=
  inComment_after_of_kept rfl hm (remove_text_eq_self_iff_kept.mp h.remove_remove m hm)

/-- If no removed block comment joins two characters, the scan of the result ends inside the same
quotes. -/
theorem JoinFree.quotePart {sql : List Char} (h : JoinFree {} [] (moves strategy {} sql)) :
    (endState {} (moves strategy {} (remove strategy sql).text)).quotePart =
      (endState {} (moves strategy {} sql)).quotePart := by
  rw [quotePart_endState, quotePart_endState, remove_text_eq, h.segments_keptText,
    quotePart_openRegion?]

/-- A strategy that keeps block comments never steps into one. -/
theorem blockComment_step (hkeeps : strategy.removesMultiline = false) {st : ScanState}
    (hst : st.fault? = none) (hblock : st.blockComment = false) (c : Char) (rest : List Char) :
    (step strategy st c rest).after.blockComment = false := by
  obtain ⟨region, pending, rfl⟩ := (fault?_eq_none_iff st).mp hst
  obtain ⟨next, pending', hafter, hnext⟩ := step_next strategy region pending c rest
  rw [hafter]
  rcases hnext with rfl | rfl | rfl
  · exact hblock
  · rfl
  · cases hopened : opened? strategy c rest with
    | none => rfl
    | some opened =>
      have hremoved := (opened?_eq_some hopened).2
      cases opened with
      | blockComment => cases hkeeps.symm.trans hremoved
      | lineComment | singleQuote | doubleQuote | dollarQuote tag => rfl

/-- A strategy that keeps block comments joins nothing. -/
theorem joinFree_of_keepsBlock (hkeeps : strategy.removesMultiline = false) {st : ScanState}
    (hst : st.fault? = none) (hblock : st.blockComment = false) (done text : List Char) :
    JoinFree st done (moves strategy st text) := by
  fun_induction moves strategy st text generalizing done with
  | case1 => trivial
  | case2 st c rest s ih =>
    have hafter := blockComment_step hkeeps hst hblock c rest
    refine ⟨fun _ hopen => ?_, ih (step_sound hst strategy c rest).after_valid hafter _⟩
    rw [show s.after.blockComment = false from hafter] at hopen
    cases hopen

/-- Removal is idempotent if no removed block comment joins two characters: the second removal
changes nothing, its scan meets no comment, and it ends inside the same quotes as the first. Without
block comments to remove, there is no condition. -/
theorem removeComments_idempotent :
    (∀ (strategy : Strategy) (sql : String), JoinFree {} [] (moves strategy {} sql.toList) →
      removeComments strategy (removeComments strategy sql) = removeComments strategy sql ∧
      (∀ m ∈ moves strategy {} (removeComments strategy sql).toList, m.after.inComment = false) ∧
      (endState {} (moves strategy {} (removeComments strategy sql).toList)).quotePart =
        (endState {} (moves strategy {} sql.toList)).quotePart) ∧
    ∀ sql : String,
      removeComments .oneline (removeComments .oneline sql) = removeComments .oneline sql := by
  have htext (strategy : Strategy) (sql : String) :
      (removeComments strategy sql).toList = (remove strategy sql.toList).text :=
    String.toList_ofList
  have htwice {strategy : Strategy} {sql : String}
      (h : JoinFree {} [] (moves strategy {} sql.toList)) :
      removeComments strategy (removeComments strategy sql) = removeComments strategy sql := by
    rw [removeComments, htext, h.remove_remove]
    rfl
  refine ⟨fun strategy sql h => ⟨htwice h, ?_, ?_⟩, fun sql => htwice ?_⟩
  · rw [htext]
    exact fun m hm => h.inComment_of_mem hm
  · rw [htext]
    exact h.quotePart
  · exact joinFree_of_keepsBlock rfl rfl rfl [] sql.toList

/-- A block comment after a space joins nothing, so a second removal finds nothing more to
remove. -/
theorem removeComments_idempotent_after_space :
    JoinFree {} [] (moves .all {} "a /*b*/-- c\n'd".toList) ∧
      removeComments .all (removeComments .all "a /*b*/-- c\n'd") =
        removeComments .all "a /*b*/-- c\n'd" := by
  have hfree : JoinFree {} [] (moves .all {} "a /*b*/-- c\n'd".toList) := by decide +kernel
  exact ⟨hfree, (removeComments_idempotent.1 .all "a /*b*/-- c\n'd" hfree).1⟩

/-- Behind a dash, a removed block comment does join: the second removal removes more. -/
example : removeComments .all "-/**/-x" = "--x" ∧ removeComments .all "--x" = "" := by
  decide +kernel

end SqlPrep.Comment
