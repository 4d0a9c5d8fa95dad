import SqlPrep.Proofs.Spacing.BlankRuns

/-!
# Quoted regions and the text outside

What folding does to a text, said without flags and without single steps. A text is cut from left to
right into regions in quotes and the text outside them. A region is found whole, by its opening mark
and by the first later mark that closes it; one that does not end runs to the end of the text. Each
region is kept as it is, and in the text outside every maximal run of blank characters becomes one
space.
-/

namespace SqlPrep.Spacing

open SqlPrep.Text

/-- Cut a text that begins inside quotes after the mark that closes them. Two adjacent marks do not
close them, nor does the other mark. -/
def cutQuote (mark : Char) : List Char → List Char × List Char
  | [] => ([], [])
  | [c] => ([c], [])
  | c :: d :: rest =>
    if c = mark ∧ d = mark then (c :: d :: (cutQuote mark rest).1, (cutQuote mark rest).2)
    else if c = mark then ([c], d :: rest)
    else (c :: (cutQuote mark (d :: rest)).1, (cutQuote mark (d :: rest)).2)

/-- A part of a text: a region with its marks, or text outside all regions. -/
inductive Piece where
  | quoted (text : List Char)
  | outside (text : List Char)
  deriving DecidableEq

/-- The characters of a piece. -/
def Piece.text : Piece → List Char
  | .quoted text | .outside text => text

/-- A piece with one space for every maximal run of blank characters outside quotes. -/
def Piece.folded : Piece → List Char
  | .quoted text => text
  | .outside text => foldBlankRuns (text.map (⟨·, false, false⟩))

/-- A cut inside quotes loses nothing. -/
theorem cutQuote_append (mark : Char) (text : List Char) :
    (cutQuote mark text).1 ++ (cutQuote mark text).2 = text := by
  fun_induction cutQuote mark text with
  | case1 => rfl
  | case2 => rfl
  | case3 c d rest _ ih => rw [List.cons_append, List.cons_append, ih]
  | case4 => rfl
  | case5 c d rest _ _ ih => rw [List.cons_append, ih]

/-- The text after a cut inside quotes is no longer than the text. -/
theorem length_cutQuote_le (mark : Char) (text : List Char) :
    (cutQuote mark text).2.length ≤ text.length := by
  have hlength := congrArg List.length (cutQuote_append mark text)
  rw [List.length_append] at hlength
  omega

/-- The pieces of a text, from left to right. The text outside reaches to the next mark. -/
def pieces : List Char → List Piece
  | [] => []
  | c :: rest =>
    if isMark c then .quoted (c :: (cutQuote c rest).1) :: pieces (cutQuote c rest).2
    else .outside (c :: rest.takeWhile (!isMark ·)) :: pieces (rest.dropWhile (!isMark ·))
termination_by text => text.length
decreasing_by
  · have := length_cutQuote_le c rest
    simp only [List.length_cons]
    omega
  · have := (List.dropWhile_suffix (!isMark ·) (l := rest)).length_le
    simp only [List.length_cons]
    omega

/-- A text is its pieces in a row. -/
theorem flatMap_text_pieces (text : List Char) : (pieces text).flatMap Piece.text = text := by
  fun_induction pieces text with
  | case1 => rfl
  | case2 c rest _ ih =>
    rw [List.flatMap_cons, ih, Piece.text, List.cons_append, cutQuote_append]
  | case3 c rest _ ih =>
    rw [List.flatMap_cons, ih, Piece.text, List.cons_append, List.takeWhile_append_dropWhile]

example :
    pieces "a  '\"b'' '  c".toList =
      [.outside "a  ".toList, .quoted "'\"b'' '".toList, .outside "  c".toList] := by
  decide +kernel

/-! ## The scan of a piece -/

/-- A mark is one of the two. -/
theorem eq_of_isMark {c : Char} (h : isMark c = true) : c = '\'' ∨ c = '"' := by
  simpa [isMark] using h

/-- A mark is put out as it is. -/
theorem output_of_isMark {c : Char} (h : isMark c = true) (st : ScanState) : st.output c = [c] := by
  rcases eq_of_isMark h with rfl | rfl <;> exact output_of_not_isBlank rfl st

/-- A mark outside quotes opens them, whether a space was put out before it or not. -/
theorem next_of_isMark {mark : Char} (h : isMark mark = true) (space : Bool) :
    ScanState.next { afterSpace := space } mark = ScanState.next {} mark := by
  rcases eq_of_isMark h with rfl | rfl <;> rfl

/-- The mark that opened quotes closes them. -/
theorem next_next_of_isMark {mark : Char} (h : isMark mark = true) :
    (ScanState.next {} mark).next mark = {} := by
  rcases eq_of_isMark h with rfl | rfl <;> rfl

/-- Inside quotes, a character other than their mark leaves them open. -/
theorem next_next_of_ne {mark c : Char} (h : isMark mark = true) (hc : c ≠ mark) :
    (ScanState.next {} mark).next c = ScanState.next {} mark := by
  rcases eq_of_isMark h with rfl | rfl <;> simp [ScanState.next, ScanState.inQuote, hc]

/-- Inside quotes, every character is put out as it is. -/
theorem output_next_of_isMark {mark : Char} (h : isMark mark = true) (c : Char) :
    (ScanState.next {} mark).output c = [c] := by
  rcases eq_of_isMark h with rfl | rfl <;> simp [ScanState.output, ScanState.next, ScanState.inQuote]

/-- Inside quotes, the scan puts out the region as it is, and goes on as outside quotes. -/
theorem written_cutQuote {mark : Char} (h : isMark mark = true) (text : List Char) :
    written (ScanState.next {} mark) text =
      (cutQuote mark text).1 ++ written {} (cutQuote mark text).2 := by
  fun_induction cutQuote mark text with
  | case1 => rfl
  | case2 c => simp only [written, output_next_of_isMark h, List.append_nil]
  | case3 c d rest hdoubled ih =>
    obtain ⟨rfl, rfl⟩ := hdoubled
    rw [written, output_next_of_isMark h, next_next_of_isMark h, written, output_of_isMark h, ih]
    rfl
  | case4 d rest _ =>
    rw [written, output_next_of_isMark h, next_next_of_isMark h]
  | case5 c d rest _ hc ih =>
    rw [written, output_next_of_isMark h, next_next_of_ne h hc, ih]
    rfl

/-- A text without marks is seen with the same quotes open throughout. -/
theorem seenFrom_of_not_isMark {text : List Char} (h : ∀ c ∈ text, isMark c = false)
    (st : ScanState) : seenFrom st text = text.map (⟨·, st.singleQuote, st.doubleQuote⟩) := by
  induction text generalizing st with
  | nil => rfl
  | cons c rest ih =>
    obtain ⟨hc, hrest⟩ := List.forall_mem_cons.mp h
    rw [seenFrom, ih hrest, next_of_not_isMark hc]
    rfl

/-- A text without marks is folded. -/
theorem written_of_not_isMark {text : List Char} (h : ∀ c ∈ text, isMark c = false) :
    written {} text = foldBlankRuns (text.map (⟨·, false, false⟩)) := by
  rw [written_eq_foldBlankRuns, if_neg Bool.false_ne_true, seenFrom_of_not_isMark h]

/-- In front of a mark or of the end of the text it does not matter whether a space was put out. -/
theorem written_afterSpace {text : List Char} (h : ∀ c ∈ text.head?, isMark c = true)
    (space : Bool) : written { afterSpace := space } text = written {} text := by
  cases text with
  | nil => rfl
  | cons c rest =>
    have hc : isMark c = true := h c rfl
    rw [written, written, output_of_isMark hc, output_of_isMark hc, next_of_isMark hc]

/-- The text outside quotes is folded for itself if a mark or the end of the text follows it. -/
theorem written_outside {text rest : List Char} (h : ∀ c ∈ text, isMark c = false)
    (hrest : ∀ c ∈ rest.head?, isMark c = true) :
    written {} (text ++ rest) =
      foldBlankRuns (text.map (⟨·, false, false⟩)) ++ written {} rest := by
  obtain ⟨space, hspace⟩ : ∃ space, ScanState.afterText {} text = { afterSpace := space } := by
    have hquotes := quotePart_afterText_of_not_isMark h {}
    generalize ScanState.afterText {} text = st at hquotes
    obtain ⟨single, double, space⟩ := st
    cases hquotes
    exact ⟨space, rfl⟩
  rw [written_append, hspace, written_afterSpace hrest, written_of_not_isMark h]

/-- The scan puts out the pieces of a text, folded one by one. -/
theorem written_eq_pieces (text : List Char) :
    written {} text = (pieces text).flatMap Piece.folded := by
  fun_induction pieces text with
  | case1 => rfl
  | case2 c rest hc ih =>
    rw [written, output_of_isMark hc, written_cutQuote hc, ih, List.flatMap_cons]
    rfl
  | case3 c rest hc ih =>
    have hplain : ∀ d ∈ c :: rest.takeWhile (!isMark ·), isMark d = false := by
      refine List.forall_mem_cons.mpr ⟨Bool.eq_false_iff.mpr hc, fun d hd => ?_⟩
      simpa using List.all_eq_true.mp List.all_takeWhile d hd
    have hnext : ∀ d ∈ (rest.dropWhile (!isMark ·)).head?, isMark d = true := by
      intro d hd
      have hfirst := List.head?_dropWhile_not (!isMark ·) rest
      rw [Option.mem_def.mp hd] at hfirst
      simpa using hfirst
    have hcut : c :: rest = (c :: rest.takeWhile (!isMark ·)) ++ rest.dropWhile (!isMark ·) := by
      rw [List.cons_append, List.takeWhile_append_dropWhile]
    rw [hcut, written_outside hplain hnext, ih, List.flatMap_cons]
    rfl

/-- Folding is the reference cut: the pieces are the whole text, and the result is every region in
quotes as it is and the text outside with one space for every maximal run of blank characters, in
order. -/
theorem normalize_eq_pieces (sql : String) :
    (pieces sql.toList).flatMap Piece.text = sql.toList ∧
      normalize sql = String.ofList ((pieces sql.toList).flatMap Piece.folded) :=
  ⟨flatMap_text_pieces sql.toList, by rw [normalize, collapse_eq_written, written_eq_pieces]⟩

end SqlPrep.Spacing
