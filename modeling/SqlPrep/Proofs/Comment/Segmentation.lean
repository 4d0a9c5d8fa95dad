import SqlPrep.Proofs.Comment.Run

/-!
# The scan follows the segments

Segment by segment, the scan spends its moves on exactly the text of the segment, and keeps or
drops it whole. So comment removal is the text of the segments that the strategy keeps, and the
scan ends inside a region exactly when the last segment is an open one.
-/

namespace SqlPrep.Comment

/-- The state right after a region that ends. A line comment is only left at the line feed. -/
def Region.closedState : Region → ScanState
  | .lineComment => Region.state .lineComment
  | .blockComment | .singleQuote | .doubleQuote | .dollarQuote _ => {}

/-- A region whose tag, if it has one, is made of tag characters. -/
def Region.WellTagged : Region → Prop
  | .dollarQuote tag => ∀ c ∈ tag, isTagChar c
  | .lineComment | .blockComment | .singleQuote | .doubleQuote => True

variable {strategy : Strategy}

/-- The region that opens is one of quotes, or a comment that the strategy removes. -/
theorem opened?_eq_some {c : Char} {rest : List Char} {region : Region}
    (h : opened? strategy c rest = some region) :
    region.WellTagged ∧ region.removedBy strategy = region.isComment := by
  unfold opened? at h
  split at h
  · next hline => cases h; exact ⟨trivial, hline.1⟩
  · split at h
    · next hblock => cases h; exact ⟨trivial, hblock.1⟩
    · split at h
      · cases h; exact ⟨trivial, rfl⟩
      · split at h
        · cases h; exact ⟨trivial, rfl⟩
        · split at h
          · obtain ⟨tag, htag, rfl⟩ := Option.map_eq_some_iff.mp h
            exact ⟨dollarTag?_isTagChar htag, rfl⟩
          · cases h

/-- The scan passes a region that ends. -/
theorem Region.passes_of_split? (strategy : Strategy) {region : Region} (htag : region.WellTagged)
    {body inside after : List Char} (h : region.split? body = some (inside, after)) :
    Passes strategy (!region.isComment) region.state body region.closedState after := by
  cases region with
  | lineComment => exact passes_splitLine? h
  | blockComment => exact passes_splitBlock h
  | singleQuote => exact passes_splitQuote? rfl h
  | doubleQuote => exact passes_splitQuote? rfl h
  | dollarQuote tag => exact passes_splitDollar htag h

/-- The scan passes the rest of the text in a region that does not end. -/
theorem Region.passes_of_split?_none (strategy : Strategy) {region : Region}
    (htag : region.WellTagged) {body : List Char} (h : region.split? body = none) :
    ∃ pending, Passes strategy (!region.isComment) region.state body
      (region.state.withEscape pending) [] := by
  cases region with
  | lineComment => exact ⟨false, passes_splitLine?_none h⟩
  | blockComment => exact ⟨false, passes_splitBlock_none h⟩
  | singleQuote => exact passes_splitQuote?_none rfl h
  | doubleQuote => exact passes_splitQuote?_none rfl h
  | dollarQuote tag => exact ⟨false, passes_splitDollar_none htag h⟩

/-- After a line comment that ends comes a line feed. -/
theorem splitLine?_after {text inside after : List Char}
    (h : splitLine? text = some (inside, after)) : after.head? = some '\n' := by
  fun_induction splitLine? text generalizing inside with
  | case1 => simp at h
  | case2 => cases h; rfl
  | case3 c rest _ ih =>
    obtain ⟨inside', hsplit, -⟩ := map_putBefore_eq_some.mp h
    exact ih hsplit

/-- After a region that ends, the scan goes on as outside all regions. -/
theorem Region.moves_closedState {region : Region} {body inside after : List Char}
    (h : region.split? body = some (inside, after)) :
    moves strategy region.closedState after = moves strategy {} after := by
  cases region with
  | lineComment =>
    obtain ⟨tail, rfl⟩ := List.head?_eq_some_iff.mp (splitLine?_after h)
    have hstep : step strategy {} '\n' tail = keep 0 {} := by
      simp [step_outside, opened?]
    rw [moves_cons, moves_cons, hstep, Region.closedState, step_lineComment, if_pos rfl]
  | blockComment | singleQuote | doubleQuote | dollarQuote tag => rfl

/-- The region that an open segment leaves the scan inside of. -/
def Segment.open? (g : Segment) : Option Region :=
  if g.closed then none else g.region

/-- The region that a text ends inside of. -/
def openRegion? (segments : List Segment) : Option Region :=
  segments.getLast?.bind Segment.open?

/-- The scan passes the first segment, and goes on as outside all regions and never inside a block
comment. If the text ends there, the scan ends inside the region of an open segment. -/
theorem passes_firstSegment {c : Char} {rest after : List Char} {g : Segment}
    (h : firstSegment strategy c rest = (g, after)) :
    ∃ st, Passes strategy (!g.removedBy strategy) {} (c :: rest) st after ∧
      moves strategy st after = moves strategy {} after ∧
      (st.blockComment = true → after = []) ∧
      (after = [] → ∃ pending, st = (stateIn g.open?).withEscape pending) := by
  have hstep := step_outside strategy c rest
  obtain ⟨hopened, rfl, rfl⟩ | ⟨region, hopened, hregion⟩ := firstSegment_cases h
  · rw [hopened] at hstep
    exact ⟨{}, Passes.head 0 {} hstep (Passes.refl after), rfl, fun h => (by cases h),
      fun _ => ⟨false, rfl⟩⟩
  · rw [hopened] at hstep
    obtain ⟨htag, hremoved⟩ := opened?_eq_some hopened
    have hbody : rest.drop (region.opening.length - 1) =
        (c :: rest).drop region.opening.length := by
      cases region <;> simp [Region.opening, delimiter]
    obtain ⟨inside, hsplit, rfl⟩ | ⟨hsplit, rfl, rfl⟩ := hregion
    · have hpasses := Region.passes_of_split? strategy htag hsplit
      rw [Segment.removedBy, Option.any_some, hremoved]
      refine ⟨region.closedState, Passes.head _ _ hstep (hbody ▸ hpasses),
        Region.moves_closedState hsplit, ?_, ?_⟩
      · intro hblock
        cases region <;> cases hblock
      · rintro rfl
        refine ⟨false, ?_⟩
        cases region with
        | lineComment => cases splitLine?_after hsplit
        | blockComment | singleQuote | doubleQuote | dollarQuote tag => rfl
    · obtain ⟨pending, hpasses⟩ := Region.passes_of_split?_none strategy htag hsplit
      rw [Segment.removedBy, Option.any_some, hremoved]
      refine ⟨region.state.withEscape pending, Passes.head _ _ hstep (hbody ▸ hpasses), ?_, ?_, ?_⟩
      · rw [moves_nil, moves_nil]
      · exact fun _ => rfl
      · exact fun _ => ⟨pending, rfl⟩

/-- Moves that are all kept put out what they take. -/
theorem emitted_of_kept {ms : List Move} (h : ∀ m ∈ ms, m.kept = true) :
    emitted ms = taken ms := by
  induction ms with
  | nil => rfl
  | cons m ms ih =>
    rw [emitted, List.flatMap_cons, ← emitted, ih fun m' hm' => h m' (List.mem_cons_of_mem _ hm'),
      Move.emitted, if_pos (h m List.mem_cons_self), taken, taken, List.flatMap_cons]

/-- Moves that are all dropped put out nothing. -/
theorem emitted_of_dropped {ms : List Move} (h : ∀ m ∈ ms, m.kept = false) : emitted ms = [] := by
  rw [emitted, List.flatMap_eq_nil_iff]
  intro m hm
  simp [Move.emitted, h m hm]

/-- What a list of moves puts out is what its parts put out. -/
theorem emitted_append (ms ns : List Move) : emitted (ms ++ ns) = emitted ms ++ emitted ns :=
  List.flatMap_append

/-- The state after two lists of moves is the state after the second. -/
theorem endState_append (st : ScanState) (ms ns : List Move) :
    endState st (ms ++ ns) = endState (endState st ms) ns := by
  induction ms generalizing st with
  | nil => rfl
  | cons m ms ih => exact ih m.after

/-- The state after moves of a text does not depend on the state that they are counted from. -/
theorem endState_moves_of_ne_nil (st st' st'' : ScanState) {text : List Char} (h : text ≠ []) :
    endState st' (moves strategy st text) = endState st'' (moves strategy st text) := by
  cases text with
  | nil => contradiction
  | cons c rest => rw [moves_cons, endState, endState]

/-- The scan spends its first moves on the first segment, and keeps or drops it whole. It is not
left inside a block comment in front of more text. -/
theorem moves_firstSegment {c : Char} {rest after : List Char} {g : Segment}
    (h : firstSegment strategy c rest = (g, after)) :
    ∃ ms, moves strategy {} (c :: rest) = ms ++ moves strategy {} after ∧
      ((endState {} ms).blockComment = true → after = []) ∧
      emitted ms = if g.removedBy strategy then [] else g.text := by
  obtain ⟨st, ⟨ms, hmoves, htaken, hkept, rfl⟩, hleft, hblock, -⟩ := passes_firstSegment h
  rw [← firstSegment_append h, List.append_cancel_right_eq] at htaken
  refine ⟨ms, hmoves.trans (by rw [hleft]), hblock, ?_⟩
  cases hremoved : g.removedBy strategy with
  | false =>
    rw [hremoved] at hkept
    rw [emitted_of_kept hkept, htaken, if_neg Bool.false_ne_true]
  | true =>
    rw [hremoved] at hkept
    rw [emitted_of_dropped hkept, if_pos rfl]

/-- The scan puts out the text of the segments that the strategy keeps. -/
theorem emitted_moves (strategy : Strategy) (text : List Char) :
    emitted (moves strategy {} text) = keptText strategy (segments strategy text) := by
  induction text using segments_induction strategy with
  | nil => rw [moves_nil, segments_nil]; rfl
  | cons c rest g after hfirst ih =>
    obtain ⟨ms, hmoves, -, hemitted⟩ := moves_firstSegment hfirst
    rw [hmoves, emitted_append, ih, segments_cons hfirst, keptText_cons, hemitted]

/-- The scan of a text ends inside the region that its segments leave open. -/
theorem endState_moves (strategy : Strategy) (text : List Char) :
    ∃ pending, endState {} (moves strategy {} text) =
      (stateIn (openRegion? (segments strategy text))).withEscape pending := by
  induction text using segments_induction strategy with
  | nil => exact ⟨false, by rw [moves_nil, segments_nil]; rfl⟩
  | cons c rest g after hfirst ih =>
    obtain ⟨st, ⟨ms, hmoves, -, -, hend⟩, hleft, -, hopen⟩ := passes_firstSegment hfirst
    rw [hmoves, hleft, endState_append, hend, segments_cons hfirst]
    cases after with
    | nil =>
      rw [segments_nil, moves_nil]
      exact hopen rfl
    | cons d after =>
      rw [endState_moves_of_ne_nil {} st {} (List.cons_ne_nil d after)]
      cases hnext : firstSegment strategy d after with
      | mk g' after' =>
        rw [segments_cons hnext] at ih ⊢
        rwa [openRegion?, List.getLast?_cons_cons, ← openRegion?]

/-- A strategy that removes nothing keeps every segment. -/
theorem keptText_none (segments : List Segment) : keptText .none segments = joined segments := by
  have hkept : ∀ g ∈ segments, (!g.removedBy .none) = true := by
    rintro ⟨region, text, closed⟩ -
    rcases region with _ | (_ | _ | _ | _ | tag) <;> rfl
  rw [keptText, List.filter_eq_self.mpr hkept]

/-- Comment removal cuts the text into segments and keeps the text of those that the strategy does
not remove. -/
theorem remove_text_eq (strategy : Strategy) (sql : List Char) :
    (remove strategy sql).text = keptText strategy (segments strategy sql) := by
  unfold remove
  split
  · next hnone => rw [hnone, keptText_none, joined_segments]
  · exact emitted_moves strategy sql

/-- Comment removal puts out what the scan puts out. -/
theorem remove_text_eq_emitted (strategy : Strategy) (sql : List Char) :
    (remove strategy sql).text = emitted (moves strategy {} sql) :=
  (remove_text_eq strategy sql).trans (emitted_moves strategy sql).symm

/-- Removal changes nothing exactly if the scan keeps everything. -/
theorem remove_text_eq_self_iff_kept {text : List Char} :
    (remove strategy text).text = text ↔ ∀ m ∈ moves strategy {} text, m.kept = true := by
  rw [remove_text_eq_emitted]
  constructor
  · intro hsame
    exact kept_of_emitted_eq_taken (hsame.trans (taken_moves rfl text).symm)
  · intro hkept
    rw [emitted_of_kept hkept, taken_moves rfl]

/-- What a text ends inside of is what its scan ends inside of. -/
theorem remove_unterminated (hstrategy : strategy ≠ .none) (text : List Char) :
    (remove strategy text).unterminated =
      (endState {} (moves strategy {} text)).unterminated? := by
  rw [remove, if_neg hstrategy]

/-- Removal is decided by the segments. -/
theorem remove_eq_of_segments (hstrategy : strategy ≠ .none) (text : List Char) :
    remove strategy text = ⟨keptText strategy (segments strategy text),
      (stateIn (openRegion? (segments strategy text))).unterminated?⟩ := by
  obtain ⟨pending, hend⟩ := endState_moves strategy text
  have hopen : (remove strategy text).unterminated =
      (stateIn (openRegion? (segments strategy text))).unterminated? := by
    rw [remove_unterminated hstrategy, hend]
    rfl
  rw [← remove_text_eq, ← hopen]

/-- A scan that ends outside all quotes and comments leaves no region open. -/
theorem openRegion?_of_outside {text : List Char}
    (hquote : (endState {} (moves strategy {} text)).inQuote = false)
    (hcomment : (endState {} (moves strategy {} text)).inComment = false) :
    openRegion? (segments strategy text) = none := by
  obtain ⟨pending, hend⟩ := endState_moves strategy text
  rw [hend] at hquote hcomment
  cases hopen : openRegion? (segments strategy text) with
  | none => rfl
  | some region =>
    rw [hopen] at hquote hcomment
    cases region with
    | lineComment | blockComment => cases hcomment
    | singleQuote | doubleQuote | dollarQuote tag => cases hquote

/-- A scan that ends outside all quotes and comments ends as it began. -/
theorem endState_of_outside {text : List Char}
    (hquote : (endState {} (moves strategy {} text)).inQuote = false)
    (hcomment : (endState {} (moves strategy {} text)).inComment = false) :
    endState {} (moves strategy {} text) = {} := by
  have hescape := (endState_start_sound strategy text).2
  obtain ⟨pending, hend⟩ := endState_moves strategy text
  rw [openRegion?_of_outside hquote hcomment] at hend
  rw [hend] at hescape ⊢
  cases pending with
  | false => rfl
  | true => cases (hescape rfl).1

/-- A line feed that follows a removed line comment is what is kept next. -/
theorem head?_keptText_of_lineFeed {text : List Char} (h : text.head? = some '\n') :
    (keptText strategy (segments strategy text)).head? = some '\n' := by
  obtain ⟨tail, rfl⟩ := List.head?_eq_some_iff.mp h
  have hfirst : firstSegment strategy '\n' tail = (⟨none, ['\n'], true⟩, tail) := by
    simp [firstSegment, opened?]
  rw [segments_cons hfirst, keptText_cons]
  rfl

/-- What is kept after a first segment that is a line comment begins with its line feed. -/
theorem head?_keptText_of_lineComment {c : Char} {rest after : List Char} {g : Segment}
    (hfirst : firstSegment strategy c rest = (g, after)) (hline : g.region = some .lineComment) :
    ∀ d ∈ (keptText strategy (segments strategy after)).head?, d = '\n' := by
  intro d hd
  obtain ⟨-, rfl, -⟩ | ⟨region, -, ⟨inside, hsplit, rfl⟩ | ⟨-, -, rfl⟩⟩ :=
    firstSegment_cases hfirst
  · cases hline
  · cases hline
    rw [head?_keptText_of_lineFeed (splitLine?_after hsplit)] at hd
    exact (Option.some.inj hd).symm
  · rw [segments_nil] at hd
    cases hd

/-- A removed segment is a comment of one kind or the other. -/
theorem region_of_removed {g : Segment} (h : g.removedBy strategy = true) :
    g.region = some .lineComment ∨ g.region = some .blockComment := by
  obtain ⟨region, hregion, hremoved⟩ := (Option.any_eq_true _ _).mp h
  rw [hregion]
  cases region with
  | lineComment => exact Or.inl rfl
  | blockComment => exact Or.inr rfl
  | singleQuote | doubleQuote | dollarQuote tag => cases hremoved

/-- The result of comment removal is what the scan puts out. -/
theorem toList_removeComments (strategy : Strategy) (sql : String) :
    (removeComments strategy sql).toList = emitted (moves strategy {} sql.toList) := by
  rw [removeComments, String.toList_ofList, remove_text_eq_emitted]

/-- Comment removal is the reference cut: the segments are the whole text, and the result is the
text of those that the strategy keeps. -/
theorem removeComments_eq_segments (strategy : Strategy) (sql : String) :
    joined (segments strategy sql.toList) = sql.toList ∧
      removeComments strategy sql =
        String.ofList (keptText strategy (segments strategy sql.toList)) :=
  ⟨joined_segments strategy sql.toList, congrArg String.ofList (remove_text_eq strategy sql.toList)⟩

end SqlPrep.Comment
