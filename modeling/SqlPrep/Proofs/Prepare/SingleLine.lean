import SqlPrep.Proofs.Comment.Idempotence
import SqlPrep.Proofs.Prepare.Form
import SqlPrep.Proofs.Prepare.QuoteAgreement

/-!
# Line feeds in the form for logs

If no quoted text contains a line feed, every line feed of a query stands between segments or inside
a comment. The spacing scan folds one that is left after removal, unless it takes the place for
quoted: it reads every mark as a quote mark, also behind a backslash and in dollar quotes. So the
form for logs is one line exactly if, in front of each such line feed, the marks of the quoted texts
leave the spacing scan outside quotes.

Most quoted texts do this each for themselves: those in single or double quotes without a mark of
their kind right behind a backslash, and those in dollar quotes without any mark.
-/

namespace SqlPrep

namespace Spacing

open SqlPrep.Text

/-- The scan of a text ends outside quotes. -/
def EndsOutside (text : List Char) : Prop :=
  (endState {} (moves {} text)).inQuote = false

/-- Whether the scan of a text ends outside quotes is decided by running it. -/
instance (text : List Char) : Decidable (EndsOutside text) :=
  inferInstanceAs (Decidable (_ = _))

/-- Outside quotes, no quote flag is set. -/
theorem quotePart_eq_iff (st : ScanState) : st.quotePart = {} ↔ st.inQuote = false := by
  obtain ⟨single, double, space⟩ := st
  simp [ScanState.quotePart, ScanState.inQuote]

/-- The scan of a text ends outside quotes if reading its marks one by one does. -/
theorem endsOutside_iff (text : List Char) :
    EndsOutside text ↔ (ScanState.afterText {} text).quotePart = {} := by
  rw [EndsOutside, (moves_eq_written {} text).2, quotePart_eq_iff]

/-- Texts that end outside quotes do so in a row. -/
theorem EndsOutside.append {a b : List Char} (ha : EndsOutside a) (hb : EndsOutside b) :
    EndsOutside (a ++ b) := by
  rw [endsOutside_iff] at ha hb ⊢
  have hstart : (ScanState.afterText {} a).quotePart = ScanState.quotePart {} := ha
  rw [afterText_append, quotePart_afterText hstart, hb]

/-- A line feed is put out exactly inside quotes. -/
theorem lineFeed_mem_output (st : ScanState) : '\n' ∈ st.output '\n' ↔ st.inQuote = true := by
  have hblank : isBlank '\n' = true := rfl
  unfold ScanState.output
  cases st.inQuote <;> cases st.afterSpace <;> simp [hblank]

end Spacing

namespace Comment

variable {strategy : Strategy}

/-- A segment in quotes of any kind. -/
def Segment.isQuoted (g : Segment) : Bool :=
  g.region.any fun region => !region.isComment

/-- The quoted texts among segments, in a row. -/
def quotedText (segments : List Segment) : List Char :=
  joined (segments.filter Segment.isQuoted)

/-- A line feed outside all regions. -/
def lineFeed : Segment :=
  ⟨none, ['\n'], true⟩

/-- A quoted text has only marks that the spacing scan does not misread: none of its kind right
behind a backslash, and none at all in dollar quotes. -/
def Region.MarksPlain (text : List Char) : Region → Prop
  | .singleQuote => ¬ ['\\', '\''] <:+: text
  | .doubleQuote => ¬ ['\\', '"'] <:+: text
  | .dollarQuote _ => ∀ c ∈ text, Spacing.isMark c = false
  | .lineComment | .blockComment => True

/-- The quoted texts are that of the first segment, if it is quoted, and those of the others. -/
theorem quotedText_cons (g : Segment) (segments : List Segment) :
    quotedText (g :: segments) =
      (if g.isQuoted then g.text else []) ++ quotedText segments := by
  cases h : g.isQuoted <;> simp [quotedText, joined, h]

/-- A segment is plain, removed with all comments, or quoted. -/
theorem region_cases (g : Segment) :
    (g.region = none ∧ g.removedBy .all = false ∧ g.isQuoted = false) ∨
      (g.removedBy .all = true ∧ g.isQuoted = false) ∨
      (g.removedBy .all = false ∧ g.isQuoted = true) := by
  obtain ⟨_ | (_ | _ | _ | _ | tag), text, closed⟩ := g
  · exact Or.inl ⟨rfl, rfl, rfl⟩
  · exact Or.inr (Or.inl ⟨rfl, rfl⟩)
  · exact Or.inr (Or.inl ⟨rfl, rfl⟩)
  · exact Or.inr (Or.inr ⟨rfl, rfl⟩)
  · exact Or.inr (Or.inr ⟨rfl, rfl⟩)
  · exact Or.inr (Or.inr ⟨rfl, rfl⟩)

/-- A plain segment is one character other than a mark. -/
theorem plain_of_mem {text : List Char} {g : Segment} (hg : g ∈ segments strategy text)
    (hplain : g.region = none) : ∃ c, g = ⟨none, [c], true⟩ ∧ Spacing.isMark c = false := by
  obtain ⟨c, rest, after, hfirst⟩ := eq_firstSegment_of_mem hg
  obtain ⟨hopened, rfl, -⟩ := firstSegment_plain hfirst hplain
  obtain ⟨-, -, hsingle, hdouble, -⟩ := opened?_eq_none_iff.mp hopened
  exact ⟨c, rfl, by simp [Spacing.isMark, hsingle, hdouble]⟩

/-- Without line feeds in quoted texts, a line feed that is kept is a segment of its own. -/
theorem eq_lineFeed_of_mem {text : List Char}
    (hquoted : ∀ g ∈ segments .all text, g.isQuoted = true → '\n' ∉ g.text) {g : Segment}
    (hg : g ∈ segments .all text) (hkept : g.removedBy .all = false) (hfeed : '\n' ∈ g.text) :
    g = lineFeed := by
  obtain ⟨hplain, -, -⟩ | ⟨hremoved, -⟩ | ⟨-, hisQuoted⟩ := region_cases g
  · obtain ⟨c, rfl, -⟩ := plain_of_mem hg hplain
    rw [lineFeed, List.mem_singleton.mp hfeed]
  · rw [hkept] at hremoved
    cases hremoved
  · exact absurd hfeed (hquoted g hg hisQuoted)

/-- A segment stands in a list at its head or behind it. -/
theorem exists_split_cons {x g : Segment} {gs : List Segment} {P : List Segment → Prop} :
    (∃ front back, g :: gs = front ++ x :: back ∧ P front) ↔
      g = x ∧ P [] ∨ ∃ front back, gs = front ++ x :: back ∧ P (g :: front) := by
  constructor
  · rintro ⟨_ | ⟨g', front⟩, back, hsplit, hP⟩
    · exact Or.inl ⟨(List.cons.inj hsplit).1, hP⟩
    · obtain ⟨rfl, hrest⟩ := List.cons.inj hsplit
      exact Or.inr ⟨front, back, hrest, hP⟩
  · rintro (⟨rfl, hP⟩ | ⟨front, back, rfl, hP⟩)
    · exact ⟨[], gs, rfl, hP⟩
    · exact ⟨g :: front, back, rfl, hP⟩

/-- If the kept line feeds are segments of their own, folding leaves one exactly where the kept text
in front of it leaves quotes open. -/
theorem lineFeed_mem_written {gs : List Segment}
    (h : ∀ g ∈ gs, g.removedBy strategy = false → '\n' ∈ g.text → g = lineFeed)
    (sp : Spacing.ScanState) :
    '\n' ∈ Spacing.written sp (keptText strategy gs) ↔
      ∃ front back, gs = front ++ lineFeed :: back ∧
        (sp.afterText (keptText strategy front)).inQuote = true := by
  induction gs generalizing sp with
  | nil => simp [keptText, joined, Spacing.written]
  | cons g gs ih =>
    obtain ⟨hg, hrest⟩ := List.forall_mem_cons.mp h
    rw [exists_split_cons, keptText_cons]
    simp only [keptText_cons]
    cases hremoved : g.removedBy strategy with
    | true =>
      have hne : g ≠ lineFeed := by
        rintro rfl
        cases hremoved
      simp [hne, ih hrest]
    | false =>
      simp only [Bool.false_eq_true, ↓reduceIte, Spacing.written_append, List.mem_append,
        Spacing.afterText_append, ih hrest]
      refine or_congr_left ⟨fun hmem => ?_, ?_⟩
      · have hfeed : g = lineFeed :=
          hg hremoved ((Spacing.mem_written hmem).resolve_right (by decide))
        subst hfeed
        refine ⟨rfl, (Spacing.lineFeed_mem_output sp).mp ?_⟩
        simpa [lineFeed, Spacing.written] using hmem
      · rintro ⟨rfl, hquote⟩
        have hmem := (Spacing.lineFeed_mem_output sp).mpr hquote
        simpa [lineFeed, Spacing.written] using hmem

/-- The kept text leaves the same quotes open as the quoted texts in a row. -/
theorem quotePart_keptText {gs : List Segment}
    (h : ∀ g ∈ gs, g.region = none → ∀ c ∈ g.text, Spacing.isMark c = false)
    {sp sp' : Spacing.ScanState} (hsame : sp.quotePart = sp'.quotePart) :
    (sp.afterText (keptText .all gs)).quotePart = (sp'.afterText (quotedText gs)).quotePart := by
  induction gs generalizing sp sp' with
  | nil => exact hsame
  | cons g gs ih =>
    obtain ⟨hg, hrest⟩ := List.forall_mem_cons.mp h
    rw [keptText_cons, quotedText_cons, Spacing.afterText_append, Spacing.afterText_append]
    refine ih hrest ?_
    obtain ⟨hplain, hkept, hquoted⟩ | ⟨hremoved, hquoted⟩ | ⟨hkept, hquoted⟩ := region_cases g
    · rw [hkept, hquoted, if_neg Bool.false_ne_true, if_neg Bool.false_ne_true,
        Spacing.quotePart_afterText_of_not_isMark (hg hplain)]
      exact hsame
    · rw [hremoved, hquoted, if_pos rfl, if_neg Bool.false_ne_true]
      exact hsame
    · rw [hkept, hquoted, if_neg Bool.false_ne_true, if_pos rfl]
      exact Spacing.quotePart_afterText hsame g.text

/-- Quoted texts that each end outside quotes for the spacing scan do so in a row. -/
theorem endsOutside_quotedText {gs : List Segment}
    (h : ∀ g ∈ gs, g.isQuoted = true → Spacing.EndsOutside g.text) :
    Spacing.EndsOutside (quotedText gs) := by
  induction gs with
  | nil => exact (Spacing.endsOutside_iff []).mpr rfl
  | cons g gs ih =>
    obtain ⟨hg, hrest⟩ := List.forall_mem_cons.mp h
    rw [quotedText_cons]
    split
    · next hquoted => exact (hg hquoted).append (ih hrest)
    · exact ih hrest

end Comment

namespace Prepare

open Comment (Region Segment segments quotedText lineFeed)

/-- Without a mark right behind a backslash, the spacing scan closes the quotes where the scan for
comments does. -/
theorem SameQuotes.afterText_quoted {region : Region} {mark : Char}
    (hmark : region.mark? = some mark) {body inside after : List Char}
    (hsplit : Comment.splitQuote? mark body = some (inside, after))
    (hplain : ¬ ['\\', mark] <:+: inside) {sp : Spacing.ScanState}
    (h : SameQuotes region.state sp) : SameQuotes {} (sp.afterText inside) := by
  have hescape : '\\' ≠ mark := by cases region <;> cases hmark <;> decide
  fun_induction Comment.splitQuote? mark body generalizing inside sp with
  | case1 => cases hsplit
  | case2 =>
    cases hsplit
    exact h.next_close hmark
  | case3 => cases hsplit
  | case4 c d rest hunit ih =>
    obtain ⟨inside, hrest, rfl⟩ := Comment.map_putBefore_eq_some.mp hsplit
    refine ih hrest (fun hwithin => hplain (hwithin.trans (List.suffix_append [c, d] inside).isInfix)) ?_
    rcases hunit with rfl | ⟨rfl, rfl⟩
    · have hd : d ≠ mark := by
        rintro rfl
        exact hplain (List.prefix_append ['\\', d] inside).isInfix
      exact (h.next_inside hmark hescape).next_inside hmark hd
    · exact (h.next_close hmark).next_open hmark
  | case5 =>
    cases hsplit
    exact h.next_close hmark
  | case6 c d rest hunit hc ih =>
    obtain ⟨inside, hrest, rfl⟩ := Comment.map_putBefore_eq_some.mp hsplit
    refine ih hrest (fun hwithin => hplain (hwithin.trans (List.suffix_append [c] inside).isInfix)) ?_
    exact h.next_inside hmark hc

/-- The spacing scan is outside quotes if the scan for comments is and both see the same quotes. -/
theorem SameQuotes.quotePart_eq {sp : Spacing.ScanState} (h : SameQuotes {} sp) :
    sp.quotePart = {} := by
  obtain ⟨single, double, space⟩ := sp
  obtain ⟨rfl, rfl⟩ := h
  rfl

/-- The spacing scan of a closed quoted text ends outside quotes if its marks are plain. -/
theorem endsOutside_of_marksPlain {strategy : Strategy} {text : List Char} {g : Segment}
    (hg : g ∈ segments strategy text) (hquoted : g.isQuoted = true) (hclosed : g.closed = true)
    (hplain : ∀ region ∈ g.region, region.MarksPlain g.text) : Spacing.EndsOutside g.text := by
  rw [Spacing.endsOutside_iff]
  obtain ⟨c, rest, after, hfirst⟩ := Comment.eq_firstSegment_of_mem hg
  obtain ⟨-, rfl, -⟩ | ⟨region, -, ⟨inside, hsplit, rfl⟩ | ⟨-, rfl, -⟩⟩ :=
    Comment.firstSegment_cases hfirst
  · cases hquoted
  · have hmarks : region.MarksPlain (region.opening ++ inside) := hplain region rfl
    have hmarked {mark : Char} (hmark : region.mark? = some mark)
        (hopening : region.opening = [mark])
        (hsplit : Comment.splitQuote? mark ((c :: rest).drop region.opening.length) =
          some (inside, after)) (hplain : ¬ ['\\', mark] <:+: region.opening ++ inside) :
        (Spacing.ScanState.afterText {} (region.opening ++ inside)).quotePart = {} := by
      have hopen : SameQuotes region.state (Spacing.ScanState.next {} mark) :=
        SameQuotes.next_open hmark ⟨rfl, rfl⟩
      rw [hopening, List.singleton_append, Spacing.afterText_cons]
      refine (hopen.afterText_quoted hmark hsplit fun hwithin => hplain ?_).quotePart_eq
      exact hwithin.trans (List.suffix_append region.opening inside).isInfix
    cases region with
    | lineComment | blockComment => cases hquoted
    | singleQuote | doubleQuote => exact hmarked rfl rfl hsplit hmarks
    | dollarQuote tag => exact Spacing.quotePart_afterText_of_not_isMark hmarks {}
  · cases hclosed

/-- The default form for logs is the text of the kept segments with its blank runs folded. -/
theorem toList_logForm (sql : String) : (form .all .all true sql).text.toList =
    Spacing.written {} (Comment.keptText .all (segments .all sql.toList)) := by
  change (Spacing.normalize (Comment.removeComments .all sql)).toList = _
  rw [Spacing.normalize, String.toList_ofList, Spacing.collapse_eq_written, Comment.removeComments,
    String.toList_ofList, Comment.remove_text_eq]

/-- The spacing scan ends outside quotes on the first segments that are kept if it does on the
quoted ones alone. -/
theorem inQuote_keptText_iff {text : List Char} {front back : List Segment}
    (hsplit : segments .all text = front ++ back) :
    (Spacing.ScanState.afterText {} (Comment.keptText .all front)).inQuote = false ↔
      Spacing.EndsOutside (quotedText front) := by
  rw [Spacing.endsOutside_iff, ← Spacing.quotePart_eq_iff, Comment.quotePart_keptText _ rfl]
  intro g hg hplain d hd
  have hmem : g ∈ segments .all text := hsplit ▸ List.mem_append_left back hg
  obtain ⟨c, rfl, hc⟩ := Comment.plain_of_mem hmem hplain
  rwa [List.mem_singleton.mp hd]

/-- Without line feeds in quoted texts, the default form for logs is one line exactly if the spacing
scan ends outside quotes on the quoted texts in front of each line feed outside all regions. -/
theorem lineFeed_notMem_logForm {sql : String}
    (hlines : ∀ g ∈ segments .all sql.toList, g.isQuoted = true → '\n' ∉ g.text) :
    '\n' ∉ (form .all .all true sql).text.toList ↔
      ∀ front back, segments .all sql.toList = front ++ lineFeed :: back →
        Spacing.EndsOutside (quotedText front) := by
  rw [toList_logForm, Comment.lineFeed_mem_written fun g => Comment.eq_lineFeed_of_mem hlines]
  simp only [not_exists, not_and, Bool.not_eq_true]
  exact forall₃_congr fun front back hsplit => inQuote_keptText_iff hsplit

/-- Where the spacing scan ends outside quotes on each quoted text that ends, it does on all those
in front of a segment. -/
theorem endsOutside_front {text : List Char} {front back : List Segment} {g : Segment}
    (houtside : ∀ g ∈ segments .all text, g.isQuoted = true → g.closed = true →
      Spacing.EndsOutside g.text)
    (hsplit : segments .all text = front ++ g :: back) : Spacing.EndsOutside (quotedText front) := by
  refine Comment.endsOutside_quotedText fun h hh hquoted => houtside h ?_ hquoted ?_
  · exact hsplit ▸ List.mem_append_left _ hh
  · have hlast : h ∈ (segments .all text).dropLast := by
      rw [hsplit, List.dropLast_append_of_ne_nil (List.cons_ne_nil _ _)]
      exact List.mem_append_left _ hh
    exact Comment.closed_of_mem_dropLast hlast

/-- If no quoted text contains a line feed, the default form for logs is one line exactly if the
spacing scan ends outside quotes on the quoted texts in front of each line feed outside all regions.
It is one line if the spacing scan ends outside quotes on each quoted text that ends, and on every
such text it does if the marks are plain. -/
theorem logForm_singleLine_iff {raw : Value} (hraw : raw ∈ defaultRequests) (sql : String)
    (hlines : ∀ g ∈ segments .all sql.toList, g.isQuoted = true → '\n' ∉ g.text) :
    ∃ reported, prepare raw true sql = .ok reported ∧
      ('\n' ∉ reported.text.toList ↔
        ∀ front back, segments .all sql.toList = front ++ lineFeed :: back →
          Spacing.EndsOutside (quotedText front)) ∧
      ((∀ g ∈ segments .all sql.toList, g.isQuoted = true → g.closed = true →
        Spacing.EndsOutside g.text) → '\n' ∉ reported.text.toList) ∧
      ∀ g ∈ segments .all sql.toList, g.isQuoted = true → g.closed = true →
        (∀ region ∈ g.region, region.MarksPlain g.text) → Spacing.EndsOutside g.text := by
  have hexact := lineFeed_notMem_logForm hlines
  refine ⟨_, prepare_default hraw true sql, hexact, fun houtside => hexact.mpr ?_,
    fun g => endsOutside_of_marksPlain⟩
  intro front back hsplit
  exact endsOutside_front houtside hsplit

/-- Doubled marks, the other kind of mark and dollar quotes do not keep a query from becoming one
line. -/
theorem logForm_singleLine_iff_doubled :
    (∀ g ∈ segments .all "'it''s' -- a\n\"'\" $$b$$\n/*\n*/c".toList,
      g.isQuoted = true → '\n' ∉ g.text) ∧
    ∃ reported, prepare .null true "'it''s' -- a\n\"'\" $$b$$\n/*\n*/c" = .ok reported ∧
      '\n' ∉ reported.text.toList := by
  have hlines : ∀ g ∈ segments .all "'it''s' -- a\n\"'\" $$b$$\n/*\n*/c".toList,
      g.isQuoted = true → '\n' ∉ g.text := by decide +kernel
  have hdefault : Value.null ∈ defaultRequests := by simp [defaultRequests]
  obtain ⟨reported, hprepare, -, hline, -⟩ := logForm_singleLine_iff hdefault _ hlines
  exact ⟨hlines, reported, hprepare, hline (by decide +kernel)⟩

/-- Behind an escaped mark, and behind a mark in dollar quotes, the spacing scan takes a line feed
for quoted, although no quoted text contains one. -/
theorem logForm_misread :
    (∀ g ∈ segments .all "'\\''\nx".toList ++ segments .all "$$'$$\nx".toList,
      g.isQuoted = true → '\n' ∉ g.text) ∧
    (∃ reported, prepare .null true "'\\''\nx" = .ok reported ∧ '\n' ∈ reported.text.toList) ∧
    ∃ reported, prepare .null true "$$'$$\nx" = .ok reported ∧ '\n' ∈ reported.text.toList := by
  have hdefault : Value.null ∈ defaultRequests := by simp [defaultRequests]
  refine ⟨by decide +kernel, ⟨_, prepare_default hdefault true _, ?_⟩,
    ⟨_, prepare_default hdefault true _, ?_⟩⟩
  · decide +kernel
  · decide +kernel

end Prepare
end SqlPrep
