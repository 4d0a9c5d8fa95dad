import Mathlib.Data.List.Forall2
import SqlPrep.Proofs.Comment.Segmentation

/-!
# Lines and comment removal

A removed line comment takes the end of its line with it and leaves the line feed, so every line
keeps its number. A removed block comment takes the line feeds between its marks with it, and no
other line feed is ever lost: those in quotes and in comments that are kept stay where they are.
-/

namespace SqlPrep.Comment

/-- The lines of a text. -/
def lines (text : List Char) : List (List Char) :=
  text.splitOn '\n'

/-- The segments that are block comments. -/
def blockComments (segments : List Segment) : List Segment :=
  segments.filter (·.region == some .blockComment)

/-- What moves take inside block comments, with the marks at both ends. -/
def takenInBlock (st : ScanState) : List Move → List Char
  | [] => []
  | m :: ms =>
    (if st.blockComment || m.after.blockComment then m.taken else []) ++ takenInBlock m.after ms

/-! ## Lines -/

/-- A line feed ends an empty line, and any other character belongs to the first line. -/
theorem lines_cons (c : Char) (rest : List Char) :
    lines (c :: rest) =
      if c = '\n' then [] :: lines rest else (lines rest).modifyHead (c :: ·) := by
  simp only [lines, List.splitOn_eq_splitOnP, List.splitOnP_cons_eq_if_modifyHead, beq_iff_eq]

/-- Every text has a first line. -/
theorem exists_lines_eq_cons (text : List Char) : ∃ line others, lines text = line :: others :=
  List.exists_cons_of_ne_nil (List.splitOn_ne_nil '\n' text)

/-- The lines of one text begin the lines of another one, line by line. -/
def BeginLines (a b : List Char) : Prop :=
  List.Forall₂ (· <+: ·) (lines a) (lines b)

/-- Lines are begun by the same lines with the same text in front. -/
theorem BeginLines.append_left {a b : List Char} (h : BeginLines a b) (front : List Char) :
    BeginLines (front ++ a) (front ++ b) := by
  induction front with
  | nil => exact h
  | cons c front ih =>
    rw [List.cons_append, List.cons_append, BeginLines, lines_cons, lines_cons]
    split
    · exact List.Forall₂.cons List.prefix_rfl ih
    · obtain ⟨line, others, hlines⟩ := exists_lines_eq_cons (front ++ a)
      obtain ⟨line', others', hlines'⟩ := exists_lines_eq_cons (front ++ b)
      rw [BeginLines, hlines, hlines', List.forall₂_cons] at ih
      rw [hlines, hlines']
      exact List.Forall₂.cons (List.cons_prefix_cons.mpr ⟨rfl, ih.1⟩) ih.2

/-- A text whose first line is empty begins the lines of a text with more in its first line. -/
theorem BeginLines.skip {a b : List Char} (h : BeginLines a b) (ha : ∀ d ∈ a.head?, d = '\n')
    {skipped : List Char} (hskipped : '\n' ∉ skipped) : BeginLines a (skipped ++ b) := by
  obtain ⟨others, hempty⟩ : ∃ others, lines a = [] :: others := by
    cases a with
    | nil => exact ⟨[], rfl⟩
    | cons d a => exact ⟨lines a, by rw [lines_cons, if_pos (ha d rfl)]⟩
  induction skipped with
  | nil => exact h
  | cons c skipped ih =>
    rw [List.mem_cons, not_or] at hskipped
    obtain ⟨line, others', hlines⟩ := exists_lines_eq_cons (skipped ++ b)
    have hrest := ih hskipped.2
    rw [BeginLines, hempty, hlines, List.forall₂_cons] at hrest
    rw [BeginLines, List.cons_append, lines_cons, if_neg (Ne.symm hskipped.1), hempty, hlines]
    exact List.Forall₂.cons List.nil_prefix hrest.2

/-! ## Line feeds in comments -/

/-- No line feed stands before the first one. -/
theorem splitLine?_notMem {text inside after : List Char}
    (h : splitLine? text = some (inside, after)) : '\n' ∉ inside := by
  fun_induction splitLine? text generalizing inside with
  | case1 => cases h
  | case2 => cases h; exact List.not_mem_nil
  | case3 c rest hc ih =>
    obtain ⟨inside', hsplit, rfl⟩ := map_putBefore_eq_some.mp h
    rw [List.singleton_append, List.mem_cons, not_or]
    exact ⟨Ne.symm hc, ih hsplit⟩

/-- A text that is not cut at a line feed has none. -/
theorem splitLine?_none_notMem {text : List Char} (h : splitLine? text = none) : '\n' ∉ text := by
  fun_induction splitLine? text with
  | case1 => exact List.not_mem_nil
  | case2 => cases h
  | case3 c rest hc ih =>
    rw [List.mem_cons, not_or]
    exact ⟨Ne.symm hc, ih (Option.map_eq_none_iff.mp h)⟩

variable {strategy : Strategy}

/-- A line comment is its opening and some text without line feeds, and behind it the scan goes on
as outside all regions. -/
theorem text_of_lineComment {c : Char} {rest after : List Char} {g : Segment}
    (hfirst : firstSegment strategy c rest = (g, after)) (hline : g.region = some .lineComment) :
    ∃ body, g.text = '-' :: '-' :: body ∧ '\n' ∉ body ∧
      moves strategy (Region.state .lineComment) after = moves strategy {} after := by
  obtain ⟨-, rfl, -⟩ | ⟨region, hopened, ⟨inside, hsplit, rfl⟩ | ⟨hsplit, rfl, rfl⟩⟩ :=
    firstSegment_cases hfirst
  · cases hline
  · cases hline
    exact ⟨inside, rfl, splitLine?_notMem hsplit, Region.moves_closedState hsplit⟩
  · cases hline
    exact ⟨_, (opening_append_drop hopened).symm, splitLine?_none_notMem hsplit,
      by rw [moves_nil, moves_nil]⟩

/-- Removing line comments leaves the beginning of each line. -/
theorem beginLines_keptText (text : List Char) :
    BeginLines (keptText .oneline (segments .oneline text)) text := by
  induction text using segments_induction .oneline with
  | nil =>
    rw [segments_nil]
    exact List.Forall₂.cons List.prefix_rfl List.Forall₂.nil
  | cons c rest g after hfirst ih =>
    rw [segments_cons hfirst, keptText_cons, ← firstSegment_append hfirst]
    cases hremoved : g.removedBy .oneline with
    | false =>
      rw [if_neg Bool.false_ne_true]
      exact ih.append_left g.text
    | true =>
      have hline : g.region = some .lineComment :=
        (region_of_removed hremoved).resolve_right fun hblock => by
          rw [Segment.removedBy, hblock] at hremoved
          cases hremoved
      obtain ⟨body, htext, hbody, -⟩ := text_of_lineComment hfirst hline
      rw [if_pos rfl, List.nil_append]
      exact ih.skip (head?_keptText_of_lineComment hfirst hline) (by simpa [htext] using hbody)

/-! ## Block comments -/

/-- The block comments of a row of segments are found one by one. -/
theorem joined_blockComments_cons (g : Segment) (gs : List Segment) :
    joined (blockComments (g :: gs)) =
      (if g.region = some .blockComment then g.text else []) ++ joined (blockComments gs) := by
  rw [blockComments, List.filter_cons]
  by_cases hblock : g.region = some .blockComment <;> simp [hblock, blockComments, joined]

/-- A first segment that is kept is no block comment. -/
theorem region_ne_blockComment_of_kept {c : Char} {rest after : List Char} {g : Segment}
    (hfirst : firstSegment strategy c rest = (g, after)) (hkept : g.removedBy strategy = false) :
    g.region ≠ some .blockComment := by
  intro hblock
  have hopened := (firstSegment_region hfirst).symm.trans hblock
  rw [Segment.removedBy, hblock, Option.any_some, (opened?_eq_some hopened).2] at hkept
  cases hkept

/-- A first segment that is not kept is a block comment or has no line feeds. -/
theorem count_lineFeed_firstSegment {c : Char} {rest after : List Char} {g : Segment}
    (hfirst : firstSegment strategy c rest = (g, after)) :
    (if g.removedBy strategy then [] else g.text).count '\n' +
      (if g.region = some .blockComment then g.text else []).count '\n' = g.text.count '\n' := by
  cases hremoved : g.removedBy strategy with
  | true =>
    rw [if_pos rfl, List.count_nil, Nat.zero_add]
    rcases region_of_removed hremoved with hline | hblock
    · obtain ⟨body, htext, hbody, -⟩ := text_of_lineComment hfirst hline
      have hnone : '\n' ∉ g.text := by simpa [htext] using hbody
      rw [hline, if_neg (by simp), List.count_nil, List.count_eq_zero_of_not_mem hnone]
    · rw [if_pos hblock]
  | false =>
    rw [if_neg Bool.false_ne_true, if_neg (region_ne_blockComment_of_kept hfirst hremoved),
      List.count_nil, Nat.add_zero]

/-- The line feeds that are not kept are those in block comments. -/
theorem count_lineFeed_keptText (strategy : Strategy) (text : List Char) :
    (keptText strategy (segments strategy text)).count '\n' +
      (joined (blockComments (segments strategy text))).count '\n' = text.count '\n' := by
  induction text using segments_induction strategy with
  | nil => rw [segments_nil]; rfl
  | cons c rest g after hfirst ih =>
    have hsegment := count_lineFeed_firstSegment hfirst
    rw [segments_cons hfirst, keptText_cons, joined_blockComments_cons,
      ← firstSegment_append hfirst, List.count_append, List.count_append, List.count_append]
    omega

/-! ## The scan inside block comments -/

/-- At the opening of a region, the scan takes the opening and goes on inside the region. -/
theorem moves_opened {c : Char} {rest : List Char} {region : Region}
    (h : opened? strategy c rest = some region) :
    moves strategy {} (c :: rest) =
      ⟨region.opening, !region.isComment, region.state⟩ ::
        moves strategy region.state ((c :: rest).drop region.opening.length) := by
  obtain ⟨tail, htail⟩ := opening_eq_cons h
  have happend := opening_append_drop h
  rw [htail] at happend
  rw [moves_cons, step_outside, h, htail]
  generalize (c :: rest).drop (c :: tail).length = body at happend ⊢
  cases happend
  simp [htail]

/-- What a scan takes inside block comments is what it takes there move by move. -/
theorem takenInBlock_append (st : ScanState) (ms ns : List Move) :
    takenInBlock st (ms ++ ns) = takenInBlock st ms ++ takenInBlock (endState st ms) ns := by
  induction ms generalizing st with
  | nil => rfl
  | cons m ms ih =>
    rw [List.cons_append, takenInBlock, takenInBlock, ih, endState, List.append_assoc]

/-- Of the state that moves start in, only the block comment flag matters. -/
theorem takenInBlock_congr {st st' : ScanState} (h : st.blockComment = st'.blockComment)
    (ms : List Move) : takenInBlock st ms = takenInBlock st' ms := by
  cases ms with
  | nil => rfl
  | cons m ms => rw [takenInBlock, takenInBlock, h]

/-- Outside block comments, moves that are all kept take nothing inside one. -/
theorem takenInBlock_of_kept {st : ScanState} (hst : st.fault? = none)
    (hout : st.blockComment = false) {text : List Char} {ms ns : List Move}
    (hmoves : moves strategy st text = ms ++ ns) (hkept : ∀ m ∈ ms, m.kept = true) :
    takenInBlock st ms = [] := by
  have hafter : ∀ m ∈ ms, m.after.blockComment = false := fun m hm =>
    (Bool.or_eq_false_iff.mp (inComment_after_of_kept hst
      (hmoves ▸ List.mem_append_left ns hm) (hkept m hm))).2
  clear hmoves hkept hst
  induction ms generalizing st with
  | nil => rfl
  | cons m ms ih =>
    obtain ⟨hm, hms⟩ := List.forall_mem_cons.mp hafter
    rw [takenInBlock, hout, hm, ih hm hms]
    rfl

/-- A line comment takes nothing inside a block comment. -/
theorem takenInBlock_lineComment {body : List Char} (hbody : '\n' ∉ body) (after : List Char) :
    takenInBlock (Region.state .lineComment)
        (moves strategy (Region.state .lineComment) (body ++ after)) =
      takenInBlock (Region.state .lineComment)
        (moves strategy (Region.state .lineComment) after) := by
  induction body with
  | nil => rfl
  | cons c body ih =>
    rw [List.mem_cons, not_or] at hbody
    have hstep := step_lineComment strategy c (body ++ after)
    rw [if_neg (Ne.symm hbody.1)] at hstep
    rw [List.cons_append, moves_cons, hstep, takenInBlock]
    exact ih hbody.2

/-- A block comment that ends takes its text up to the closing mark. -/
theorem takenInBlock_blockComment {text inside after : List Char}
    (h : splitAfter? ['*', '/'] text = some (inside, after)) :
    takenInBlock (Region.state .blockComment) (moves strategy (Region.state .blockComment) text) =
      inside ++ takenInBlock {} (moves strategy {} after) := by
  fun_induction splitAfter? ['*', '/'] text generalizing inside with
  | case1 => cases h
  | case2 c rest hmark =>
    obtain ⟨rfl, hnext⟩ := pair_prefix_iff.mp hmark
    obtain ⟨tail, rfl⟩ := List.head?_eq_some_iff.mp hnext
    cases h
    have hstep := step_blockComment strategy '*' ('/' :: tail)
    rw [if_pos ⟨rfl, rfl⟩] at hstep
    rw [moves_cons, hstep, takenInBlock]
    rfl
  | case3 c rest hmark ih =>
    obtain ⟨inside', hsplit, rfl⟩ := map_putBefore_eq_some.mp h
    have hstep := step_blockComment strategy c rest
    rw [if_neg (mt pair_prefix_iff.mpr hmark)] at hstep
    rw [moves_cons, hstep, takenInBlock, List.append_assoc]
    exact congrArg (c :: ·) (ih hsplit)

/-- A block comment that does not end takes the rest of the text. -/
theorem takenInBlock_blockComment_none {text : List Char}
    (h : splitAfter? ['*', '/'] text = none) :
    takenInBlock (Region.state .blockComment) (moves strategy (Region.state .blockComment) text) =
      text := by
  fun_induction splitAfter? ['*', '/'] text with
  | case1 => rw [moves_nil]; rfl
  | case2 => cases h
  | case3 c rest hmark ih =>
    have hstep := step_blockComment strategy c rest
    rw [if_neg (mt pair_prefix_iff.mpr hmark)] at hstep
    rw [moves_cons, hstep, takenInBlock]
    exact congrArg (c :: ·) (ih (Option.map_eq_none_iff.mp h))

/-- The scan takes the first segment inside a block comment if that is one, and nothing of it if it
is not. -/
theorem takenInBlock_firstSegment {c : Char} {rest after : List Char} {g : Segment}
    (hfirst : firstSegment strategy c rest = (g, after)) :
    takenInBlock {} (moves strategy {} (c :: rest)) =
      (if g.region = some .blockComment then g.text else []) ++
        takenInBlock {} (moves strategy {} after) := by
  cases hremoved : g.removedBy strategy with
  | false =>
    obtain ⟨st, ⟨ms, hmoves, -, hkept, rfl⟩, hleft, hblock, -⟩ := passes_firstSegment hfirst
    rw [hremoved] at hkept
    rw [if_neg (region_ne_blockComment_of_kept hfirst hremoved), hmoves, takenInBlock_append,
      takenInBlock_of_kept rfl rfl hmoves hkept, hleft]
    cases after with
    | nil => rw [moves_nil]; rfl
    | cons d after =>
      have hout : (endState {} ms).blockComment = false :=
        Bool.eq_false_iff.mpr fun hin => List.cons_ne_nil d after (hblock hin)
      exact congrArg _ (takenInBlock_congr hout _)
  | true =>
    rcases region_of_removed hremoved with hline | hblock
    · have hopened := (firstSegment_region hfirst).symm.trans hline
      obtain ⟨body, htext, hbody, hleft⟩ := text_of_lineComment hfirst hline
      have hrest := firstSegment_append hfirst
      rw [htext] at hrest
      rw [hline, if_neg (by simp), moves_opened hopened, takenInBlock, ← hrest]
      change takenInBlock (Region.state .lineComment)
        (moves strategy (Region.state .lineComment) (body ++ after)) = _
      rw [takenInBlock_lineComment hbody, hleft, List.nil_append]
      exact takenInBlock_congr (show (Region.state .lineComment).blockComment = false from rfl) _
    · have hopened := (firstSegment_region hfirst).symm.trans hblock
      rw [hblock, if_pos rfl, moves_opened hopened, takenInBlock]
      obtain ⟨-, rfl, -⟩ | ⟨region, -, ⟨inside, hsplit, rfl⟩ | ⟨hsplit, rfl, rfl⟩⟩ :=
        firstSegment_cases hfirst
      · cases hblock
      · cases hblock
        rw [takenInBlock_blockComment hsplit, List.append_assoc]
        rfl
      · cases hblock
        rw [takenInBlock_blockComment_none hsplit, moves_nil]
        exact (opening_append_drop hopened).trans (List.append_nil _).symm

/-- What the scan takes inside block comments are the segments that are block comments. -/
theorem takenInBlock_moves (text : List Char) :
    takenInBlock {} (moves strategy {} text) =
      joined (blockComments (segments strategy text)) := by
  induction text using segments_induction strategy with
  | nil => rw [moves_nil, segments_nil]; rfl
  | cons c rest g after hfirst ih =>
    rw [segments_cons hfirst, joined_blockComments_cons, takenInBlock_firstSegment hfirst, ih]

/-- Removing line comments keeps the lines and leaves the beginning of each. In general comment
removal loses the line feeds inside the block comments that the scan removes, from the opening mark
through the closing one or to the end of the text, and no other. -/
theorem removeComments_keeps_lines (sql : String) :
    ((lines (removeComments .oneline sql).toList).length = (lines sql.toList).length ∧
      List.Forall₂ (· <+: ·) (lines (removeComments .oneline sql).toList) (lines sql.toList)) ∧
    ∀ strategy,
      takenInBlock {} (moves strategy {} sql.toList) =
        joined (blockComments (segments strategy sql.toList)) ∧
      (removeComments strategy sql).toList.count '\n' +
        (takenInBlock {} (moves strategy {} sql.toList)).count '\n' = sql.toList.count '\n' := by
  have hbegin := beginLines_keptText sql.toList
  rw [← emitted_moves, ← toList_removeComments] at hbegin
  refine ⟨⟨hbegin.length_eq, hbegin⟩, fun strategy => ⟨takenInBlock_moves sql.toList, ?_⟩⟩
  rw [takenInBlock_moves, toList_removeComments, emitted_moves]
  exact count_lineFeed_keptText strategy sql.toList

end SqlPrep.Comment
