import SqlPrep.Proofs.Comment.Idempotence
import SqlPrep.Proofs.Comment.PartialStrategy
import SqlPrep.Proofs.Prepare.Form

/-!
# The text of a comment does not matter

When all comments are removed, two queries that differ only inside one comment lead to the same
result: the same text for running, the same text for logs and the same reports. The body of the
comment may hold anything that does not end it, and the text in front of it anything that leaves
nothing open. Only a dash right in front of a line comment is read together with it, and then
belongs to the comment whatever its body.
-/

namespace SqlPrep

namespace Comment

variable {strategy : Strategy}

/-- No tag is read across a character that is neither a tag character nor a dollar sign. -/
theorem dollarTag?_append {a b : List Char} (h : ∀ d ∈ b.head?, isTagChar d = false ∧ d ≠ '$') :
    dollarTag? (a ++ b) = dollarTag? a := by
  induction a with
  | nil => rw [List.nil_append, dollarTag?_eq_none_of_head? h]; rfl
  | cons c a ih =>
    by_cases hc : isTagChar c = true
    · rw [List.cons_append, dollarTag?_cons hc, dollarTag?_cons hc, ih]
    · simp [dollarTag?, hc]

/-- A region that has been cut off ends before the text after it. -/
theorem Region.endsBefore_of_split? {region : Region} {text inside after : List Char}
    (h : region.split? text = some (inside, after)) : region.EndsBefore after := by
  cases region with
  | lineComment => exact splitLine?_after h
  | singleQuote | doubleQuote => exact splitQuote?_after h
  | blockComment | dollarQuote tag => trivial

/-- The region of a first segment that ends does so before the text after it. -/
theorem endsBefore_of_firstSegment {c : Char} {rest after : List Char} {g : Segment}
    (h : firstSegment strategy c rest = (g, after)) (hclosed : g.closed = true) {region : Region}
    (hregion : g.region = some region) : region.EndsBefore after := by
  obtain ⟨-, rfl, -⟩ | ⟨opened, -, ⟨inside, hsplit, rfl⟩ | ⟨-, rfl, -⟩⟩ := firstSegment_cases h
  · cases hregion
  · cases hregion
    exact Region.endsBefore_of_split? hsplit
  · cases hclosed

/-- A region that ends before a text also does with more text behind, if that is no mark. -/
theorem Region.EndsBefore.append {region : Region} {a b : List Char} (h : region.EndsBefore a)
    (hb : ∀ d ∈ b.head?, d ≠ '\'' ∧ d ≠ '"') : region.EndsBefore (a ++ b) := by
  have hmark {mark : Char} (hne : ∀ d ∈ b.head?, d ≠ mark) (ha : a.head? ≠ some mark) :
      (a ++ b).head? ≠ some mark := by
    cases a with
    | nil => exact fun hhead => hne mark hhead rfl
    | cons c a => exact ha
  cases region with
  | lineComment =>
    obtain ⟨tail, rfl⟩ := List.head?_eq_some_iff.mp h
    rfl
  | singleQuote => exact hmark (fun d hd => (hb d hd).1) h
  | doubleQuote => exact hmark (fun d hd => (hb d hd).2) h
  | blockComment | dollarQuote tag => trivial

/-- The first character of a comment. -/
def IsCommentStart (d : Char) : Prop := d = '-' ∨ d = '/'

/-- A plain character stays plain in front of a comment, but for a dash in front of a dash. -/
theorem opened?_append_comment {c d : Char} {rest t : List Char}
    (hopened : opened? strategy c rest = none) (hd : t.head? = some d) (hstart : IsCommentStart d)
    (hdash : ¬ (c = '-' ∧ d = '-' ∧ rest = [])) : opened? strategy c (rest ++ t) = none := by
  obtain ⟨hline, hblock, hsingle, hdouble, hdollar⟩ := opened?_eq_none_iff.mp hopened
  have hhead {e : Char} (h : (rest ++ t).head? = some e) :
      rest.head? = some e ∨ rest = [] ∧ e = d := by
    cases rest with
    | nil => exact Or.inr ⟨rfl, Option.some.inj (h.symm.trans hd)⟩
    | cons e' rest => exact Or.inl h
  refine opened?_eq_none_iff.mpr ⟨?_, ?_, hsingle, hdouble, fun hc => ?_⟩
  · rintro ⟨hremoves, hc, hnext⟩
    rcases hhead hnext with hsame | ⟨hnil, hed⟩
    · exact hline ⟨hremoves, hc, hsame⟩
    · exact hdash ⟨hc, hed.symm, hnil⟩
  · rintro ⟨hremoves, hc, hnext⟩
    rcases hhead hnext with hsame | ⟨-, hed⟩
    · exact hblock ⟨hremoves, hc, hsame⟩
    · rcases hstart with h | h <;> rw [h] at hed <;> cases hed
  · rw [dollarTag?_append, hdollar hc]
    intro e he
    rw [hd] at he
    cases he
    rcases hstart with rfl | rfl <;> decide

/-- In front of a comment, a text whose segments all end is cut as before; a dash at its end may
stay with the comment. -/
theorem segments_append_comment {d : Char} (hstart : IsCommentStart d) {a : List Char}
    (hclosed : ∀ g ∈ segments strategy a, g.closed = true) :
    ∃ front lead, (lead = [] ∨ lead = ['-'] ∧ d = '-') ∧
      ∀ t : List Char, t.head? = some d →
        segments strategy (a ++ t) = front ++ segments strategy (lead ++ t) := by
  induction a using segments_induction strategy with
  | nil => exact ⟨[], [], Or.inl rfl, fun t _ => rfl⟩
  | cons c rest g after hfirst ih =>
    rw [segments_cons hfirst] at hclosed
    obtain ⟨hg, hafter⟩ := List.forall_mem_cons.mp hclosed
    by_cases hdash : g.region = none ∧ c = '-' ∧ d = '-' ∧ after = []
    · obtain ⟨hplain, rfl, rfl, rfl⟩ := hdash
      obtain ⟨-, -, rfl⟩ := firstSegment_plain hfirst hplain
      exact ⟨[], ['-'], Or.inr ⟨rfl, rfl⟩, fun t _ => rfl⟩
    · obtain ⟨front, lead, hlead, hcut⟩ := ih hafter
      refine ⟨g :: front, lead, hlead, fun t ht => ?_⟩
      rw [← firstSegment_append hfirst, List.append_assoc, List.cons_append, ← hcut t ht]
      refine segments_exchange hfirst (fun hplain => ?_) (fun region hregion _ => ?_) (fun hopen => ?_)
      · obtain ⟨hopened, -, rfl⟩ := firstSegment_plain hfirst hplain
        exact opened?_append_comment hopened ht hstart fun h => hdash ⟨hplain, h⟩
      · refine (endsBefore_of_firstSegment hfirst hg hregion).append fun e he => ?_
        rw [ht] at he
        cases he
        rcases hstart with rfl | rfl <;> decide
      · rw [hg] at hopen
        cases hopen

/-- A text without line feeds is cut off whole before a line feed. -/
theorem splitLine?_of_not_mem {body : List Char} (h : '\n' ∉ body) (back : List Char) :
    splitLine? (body ++ '\n' :: back) = some (body, '\n' :: back) := by
  induction body with
  | nil => rw [List.nil_append, splitLine?, if_pos rfl]
  | cons c body ih =>
    obtain ⟨hc, hbody⟩ := not_or.mp (mt List.mem_cons.mpr h)
    rw [List.cons_append, splitLine?, if_neg (Ne.symm hc), ih hbody]
    rfl

/-- A line comment is cut off up to its line feed. -/
theorem segments_lineComment {body : List Char} (h : '\n' ∉ body) (back : List Char) :
    segments .all ('-' :: '-' :: (body ++ '\n' :: back)) =
      ⟨some .lineComment, '-' :: '-' :: body, true⟩ :: segments .all ('\n' :: back) :=
  segments_region .lineComment trivial rfl (splitLine?_of_not_mem h back)

/-- A block comment is cut off through its closing mark. -/
theorem segments_blockComment {body : List Char}
    (h : FirstAt ['*', '/'] (body ++ ['*', '/']) body.length) (back : List Char) :
    segments .all ('/' :: '*' :: (body ++ ['*', '/'] ++ back)) =
      ⟨some .blockComment, '/' :: '*' :: (body ++ ['*', '/']), true⟩ :: segments .all back :=
  segments_region .blockComment trivial rfl
    (splitAfter?_exchange (by simp) (splitAfter?_of_firstAt (by simp) h) back)

/-- One removed segment for another changes nothing, if both end. -/
theorem remove_congr_of_segments (hstrategy : strategy ≠ .none) {text text' : List Char}
    {front back : List Segment} {g g' : Segment}
    (h : segments strategy text = front ++ g :: back)
    (h' : segments strategy text' = front ++ g' :: back) (hremoved : g.removedBy strategy = true)
    (hremoved' : g'.removedBy strategy = true) (hclosed : g.closed = true)
    (hclosed' : g'.closed = true) : remove strategy text = remove strategy text' := by
  have hkept : keptText strategy (front ++ g :: back) = keptText strategy (front ++ g' :: back) := by
    simp [keptText, hremoved, hremoved']
  have hopen : openRegion? (front ++ g :: back) = openRegion? (front ++ g' :: back) := by
    cases back with
    | nil =>
      rw [openRegion?_concat, openRegion?_concat, Segment.open?, Segment.open?, if_pos hclosed,
        if_pos hclosed']
    | cons b back => simp [openRegion?]
  rw [remove_eq_of_segments hstrategy, remove_eq_of_segments hstrategy, h, h', hkept, hopen]

/-- A segment that leaves no region open ends. -/
theorem closed_of_open?_eq_none {text : List Char} {g : Segment} (hg : g ∈ segments strategy text)
    (h : g.open? = none) : g.closed = true := by
  refine Bool.of_not_eq_false fun hopen => ?_
  rw [Segment.open?, hopen, if_neg Bool.false_ne_true] at h
  obtain ⟨c, rest, after, hfirst⟩ := eq_firstSegment_of_mem hg
  obtain ⟨-, rfl, -⟩ := firstSegment_plain hfirst h
  cases hopen

/-- If a scan ends outside all quotes and comments, every segment ends. -/
theorem closed_of_outside {text : List Char}
    (hquote : (endState {} (moves strategy {} text)).inQuote = false)
    (hcomment : (endState {} (moves strategy {} text)).inComment = false) :
    ∀ g ∈ segments strategy text, g.closed = true := by
  have hnone := openRegion?_of_outside hquote hcomment
  intro g hg
  rcases List.eq_nil_or_concat (segments strategy text) with hnil | ⟨front, last, hsegments⟩
  · rw [hnil] at hg
    cases hg
  · rw [List.concat_eq_append] at hsegments
    rw [hsegments, openRegion?_concat] at hnone
    rcases List.mem_append.mp (hsegments ▸ hg) with hfront | hlast
    · have hmem : g ∈ (segments strategy text).dropLast := by simpa [hsegments] using hfront
      exact closed_of_mem_dropLast hmem
    · obtain rfl := List.mem_singleton.mp hlast
      exact closed_of_open?_eq_none hg hnone

/-- The body of a line comment after a text that leaves nothing open does not matter. -/
theorem remove_lineComment_congr {a x y : List Char}
    (hclosed : ∀ g ∈ segments .all a, g.closed = true) (hx : '\n' ∉ x) (hy : '\n' ∉ y)
    (back : List Char) :
    remove .all (a ++ '-' :: '-' :: (x ++ '\n' :: back)) =
      remove .all (a ++ '-' :: '-' :: (y ++ '\n' :: back)) := by
  obtain ⟨front, lead, hlead, hcut⟩ := segments_append_comment (Or.inl rfl) hclosed
  have hsegments (body : List Char) (hbody : '\n' ∉ body) :
      segments .all (a ++ '-' :: '-' :: (body ++ '\n' :: back)) =
        front ++ ⟨some .lineComment, lead ++ '-' :: '-' :: body, true⟩ ::
          segments .all ('\n' :: back) := by
    rw [hcut _ rfl]
    rcases hlead with rfl | ⟨rfl, -⟩
    · rw [List.nil_append, List.nil_append, segments_lineComment hbody]
    · have hdash : '\n' ∉ '-' :: body := by simpa using hbody
      rw [List.singleton_append, List.singleton_append, ← segments_lineComment hdash]
      rfl
  exact remove_congr_of_segments (by decide) (hsegments x hx) (hsegments y hy) rfl rfl rfl rfl

/-- The body of a block comment after a text that leaves nothing open does not matter. -/
theorem remove_blockComment_congr {a x y : List Char}
    (hclosed : ∀ g ∈ segments .all a, g.closed = true)
    (hx : FirstAt ['*', '/'] (x ++ ['*', '/']) x.length)
    (hy : FirstAt ['*', '/'] (y ++ ['*', '/']) y.length) (back : List Char) :
    remove .all (a ++ '/' :: '*' :: (x ++ ['*', '/'] ++ back)) =
      remove .all (a ++ '/' :: '*' :: (y ++ ['*', '/'] ++ back)) := by
  obtain ⟨front, lead, hlead, hcut⟩ := segments_append_comment (Or.inr rfl) hclosed
  obtain rfl := hlead.resolve_right fun h => absurd h.2 (by decide)
  have hsegments (body : List Char) (hbody : FirstAt ['*', '/'] (body ++ ['*', '/']) body.length) :
      segments .all (a ++ '/' :: '*' :: (body ++ ['*', '/'] ++ back)) =
        front ++ ⟨some .blockComment, '/' :: '*' :: (body ++ ['*', '/']), true⟩ ::
          segments .all back := by
    rw [hcut _ rfl, List.nil_append, segments_blockComment hbody]
  exact remove_congr_of_segments (by decide) (hsegments x hx) (hsegments y hy) rfl rfl rfl rfl

end Comment

namespace Prepare

/-- Two queries with the same result: the same text without comments, and by default the same two
forms with the same reports. -/
structure SameResult (sql sql' : String) : Prop where
  removed : Comment.removeComments .all sql = Comment.removeComments .all sql'
  variants : ∀ raw ∈ defaultRequests, ∃ variants,
    prepareVariants raw sql = .ok variants ∧ prepareVariants raw sql' = .ok variants

/-- Queries from which removal makes the same have the same result. -/
theorem sameResult_of_remove {sql sql' : String}
    (h : Comment.remove .all sql.toList = Comment.remove .all sql'.toList) : SameResult sql sql' := by
  have hremoved : Comment.removeComments .all sql = Comment.removeComments .all sql' := by
    rw [Comment.removeComments, h]
    rfl
  have hreported : Comment.removeReported .all sql = Comment.removeReported .all sql' := by
    rw [Comment.removeReported, h]
    rfl
  have happlies (forLogs : Bool) : Source.all.applies forLogs = true := rfl
  have hform (forLogs : Bool) : form .all .all forLogs sql = form .all .all forLogs sql' := by
    simp only [form, formText, formRecords, removal, happlies, if_true, hremoved, hreported]
  refine ⟨hremoved, fun raw hraw => ⟨_, prepareVariants_default hraw sql, ?_⟩⟩
  rw [prepareVariants_default hraw, hform, hform]

/-- The text of a comment never influences the result. After a text that leaves no quote and no
comment open, a line comment with one body or another leads to the same result, and so does a block
comment: no body can change what is run, and none can reach a log. -/
theorem comment_body_irrelevant (a x y c : String)
    (hquote : (Comment.endState {} (Comment.moves .all {} a.toList)).inQuote = false)
    (hcomment : (Comment.endState {} (Comment.moves .all {} a.toList)).inComment = false) :
    ('\n' ∉ x.toList → '\n' ∉ y.toList →
      SameResult (a ++ "--" ++ x ++ "\n" ++ c) (a ++ "--" ++ y ++ "\n" ++ c)) ∧
    (Comment.FirstAt "*/".toList (x ++ "*/").toList x.length →
      Comment.FirstAt "*/".toList (y ++ "*/").toList y.length →
      SameResult (a ++ "/*" ++ x ++ "*/" ++ c) (a ++ "/*" ++ y ++ "*/" ++ c)) := by
  have hclosed := Comment.closed_of_outside hquote hcomment
  refine ⟨fun hx hy => sameResult_of_remove ?_, fun hx hy => sameResult_of_remove ?_⟩
  · simpa using Comment.remove_lineComment_congr hclosed hx hy c.toList
  · rw [String.toList_append, ← String.length_toList] at hx hy
    simpa using Comment.remove_blockComment_congr hclosed hx hy c.toList

/-- Marks, markers and a backslash in a comment are not read, also behind a dash and the beginning
of a tag. -/
theorem comment_body_irrelevant_dash :
    ((Comment.endState {} (Comment.moves .all {} "a$t-".toList)).inQuote = false ∧
      (Comment.endState {} (Comment.moves .all {} "a$t-".toList)).inComment = false) ∧
    SameResult ("a$t-" ++ "--" ++ "*'$$\\/*" ++ "\n" ++ "'b") ("a$t-" ++ "--" ++ "" ++ "\n" ++ "'b") ∧
    SameResult ("a$t-" ++ "/*" ++ "*'$$\\/*" ++ "*/" ++ "'b")
      ("a$t-" ++ "/*" ++ "" ++ "*/" ++ "'b") := by
  have houtside : (Comment.endState {} (Comment.moves .all {} "a$t-".toList)).inQuote = false ∧
      (Comment.endState {} (Comment.moves .all {} "a$t-".toList)).inComment = false := by
    decide +kernel
  have hirrelevant := comment_body_irrelevant "a$t-" "*'$$\\/*" "" "'b" houtside.1 houtside.2
  exact ⟨houtside, hirrelevant.1 (by decide +kernel) (by decide +kernel),
    hirrelevant.2 (by decide +kernel) (by decide +kernel)⟩

end Prepare
end SqlPrep
