import SqlPrep.Proofs.Comment.Continuation
import SqlPrep.Proofs.Comment.Lookahead

/-!
# Literals shield their content

A literal can be written for every content: in single or double quotes, with each backslash and each
mark of the content doubled, or in dollar quotes with a delimiter that does not occur too early.
Whatever the content holds, the scan reads such a literal as one segment and is outside again right
after it. Between blank characters the texts around the literal are then read as if each stood alone.
-/

namespace SqlPrep.Comment

open SqlPrep.Text

/-- A content with each backslash and each mark written twice. -/
def doubled (mark : Char) (content : List Char) : List Char :=
  content.flatMap fun c => if c = '\\' ∨ c = mark then [c, c] else [c]

/-- The literals with a content. -/
inductive IsLiteral (content : List Char) : List Char → Prop
  | single : IsLiteral content ('\'' :: doubled '\'' content ++ ['\''])
  | double : IsLiteral content ('"' :: doubled '"' content ++ ['"'])
  | dollar {tag : List Char} (htag : ∀ c ∈ tag, isTagChar c = true)
      (hfirst : FirstAt (delimiter tag) (content ++ delimiter tag) content.length) :
      IsLiteral content (delimiter tag ++ content ++ delimiter tag)

/-- Quotes that have just ended also end there before a text that is empty or begins with a blank
character. -/
theorem Region.endsBefore_of_blank {region : Region} (hquote : region.isComment = false)
    {after : List Char} (hafter : ∀ c ∈ after.head?, isBlank c = true) :
    region.EndsBefore after := by
  have hmark {mark : Char} (hmark : isBlank mark = false) : after.head? ≠ some mark := by
    intro hhead
    rw [hafter mark hhead] at hmark
    cases hmark
  cases region with
  | lineComment | blockComment => cases hquote
  | singleQuote => exact hmark rfl
  | doubleQuote => exact hmark rfl
  | dollarQuote tag => trivial

/-- A quoted content is cut off through its closing mark, since each mark of the content has a
second one and each backslash has a second one to shield. -/
theorem splitQuote?_doubled {mark : Char} (content : List Char) :
    splitQuote? mark (doubled mark content ++ [mark]) = some (doubled mark content ++ [mark], []) := by
  induction content with
  | nil => simp [doubled, splitQuote?]
  | cons c content ih =>
    have hcons : doubled mark (c :: content) =
        (if c = '\\' ∨ c = mark then [c, c] else [c]) ++ doubled mark content :=
      List.flatMap_cons
    rw [hcons]
    by_cases hunit : c = '\\' ∨ c = mark
    · simp [hunit, splitQuote?, ih, Split.putBefore]
    · obtain ⟨hescape, hmark⟩ := not_or.mp hunit
      obtain ⟨d, tail, hrest⟩ := List.exists_cons_of_ne_nil
        (show doubled mark content ++ [mark] ≠ [] by simp)
      have hplain : ¬ (c = '\\' ∨ (c = mark ∧ d = mark)) := by simp [hescape, hmark]
      rw [if_neg hunit, List.append_assoc, List.singleton_append, hrest, splitQuote?, if_neg hplain,
        if_neg hmark, ← hrest, ih]
      rfl

/-- A literal is the opening of a quoted region and a text that ends where the region does. -/
theorem IsLiteral.exists_region {content literal : List Char} (h : IsLiteral content literal) :
    ∃ (region : Region) (inside : List Char), region.isComment = false ∧ region.WellTagged ∧
      literal = region.opening ++ inside ∧ region.split? inside = some (inside, []) := by
  cases h with
  | single => exact ⟨.singleQuote, _, rfl, trivial, rfl, splitQuote?_doubled content⟩
  | double => exact ⟨.doubleQuote, _, rfl, trivial, rfl, splitQuote?_doubled content⟩
  | @dollar tag htag hfirst =>
    have hne : delimiter tag ≠ [] := by simp [delimiter]
    exact ⟨.dollarQuote tag, _, rfl, htag, List.append_assoc _ _ _,
      splitAfter?_of_firstAt hne hfirst⟩

/-- A literal before a blank character or at the end of a text is read as one kept segment. -/
theorem IsLiteral.segments_append {content literal : List Char} (h : IsLiteral content literal)
    (strategy : Strategy) {after : List Char} (hafter : ∀ c ∈ after.head?, isBlank c = true) :
    ∃ g : Segment, g.text = literal ∧ g.removedBy strategy = false ∧
      segments strategy (literal ++ after) = g :: segments strategy after := by
  obtain ⟨region, inside, hquote, htag, rfl, hsplit⟩ := h.exists_region
  have hremoved : region.removedBy strategy = false := by
    cases region <;> first | rfl | cases hquote
  refine ⟨⟨some region, region.opening ++ inside, true⟩, rfl, hremoved, ?_⟩
  refine segments_region region htag (hremoved.trans hquote.symm) ?_
  exact Region.split?_exchange hsplit (region.endsBefore_of_blank hquote hafter)

/-- After a text that ends in a blank character and leaves nothing open, the scan goes on as at the
start. -/
theorem emitted_append_of_outside {strategy : Strategy} {before : List Char}
    (hblank : ∀ c ∈ before.getLast?, isBlank c = true)
    (hquote : (endState {} (moves strategy {} before)).inQuote = false)
    (hcomment : (endState {} (moves strategy {} before)).inComment = false) (text : List Char) :
    emitted (moves strategy {} (before ++ text)) =
      emitted (moves strategy {} before) ++ emitted (moves strategy {} text) := by
  rw [moves_append rfl (separated_of_endsBlank strategy hblank text),
    endState_of_outside hquote hcomment, emitted_append]

/-- A literal is put out as it is written, and the scan goes on as at the start. -/
theorem IsLiteral.emitted_append {content literal : List Char} (h : IsLiteral content literal)
    (strategy : Strategy) {after : List Char} (hafter : ∀ c ∈ after.head?, isBlank c = true) :
    emitted (moves strategy {} (literal ++ after)) =
      literal ++ emitted (moves strategy {} after) := by
  obtain ⟨g, rfl, hkept, hsegments⟩ := h.segments_append strategy hafter
  rw [emitted_moves, emitted_moves, hsegments, keptText_cons, if_neg (by simp [hkept])]

/-- A literal shields its content. Between a text that leaves nothing open and ends in a blank
character, and a text that begins with one, the literal is kept as it is written, and comments are
removed from both texts as if each stood alone. Each of the two texts may also be empty. -/
theorem removeComments_literal (strategy : Strategy) (before content literal after : String)
    (hliteral : IsLiteral content.toList literal.toList)
    (hbefore : ∀ c ∈ before.toList.getLast?, isBlank c = true)
    (hafter : ∀ c ∈ after.toList.head?, isBlank c = true)
    (hquote : (endState {} (moves strategy {} before.toList)).inQuote = false)
    (hcomment : (endState {} (moves strategy {} before.toList)).inComment = false) :
    removeComments strategy (before ++ literal ++ after) =
      removeComments strategy before ++ literal ++ removeComments strategy after := by
  apply String.toList_injective
  simp only [String.toList_append, toList_removeComments, List.append_assoc]
  rw [emitted_append_of_outside hbefore hquote hcomment, hliteral.emitted_append strategy hafter]

/-- Markers, both quote marks and a trailing backslash in single quotes, behind a comment that holds
a quote mark and in front of a comment. -/
theorem removeComments_literal_single :
    IsLiteral "it's -- \"/*$$\\".toList "'it''s -- \"/*$$\\\\'".toList ∧
      (∀ c ∈ "a /*'*/ ".toList.getLast?, isBlank c = true) ∧
      (∀ c ∈ " --'".toList.head?, isBlank c = true) ∧
      (endState {} (moves .all {} "a /*'*/ ".toList)).inQuote = false ∧
      (endState {} (moves .all {} "a /*'*/ ".toList)).inComment = false ∧
      removeComments .all ("a /*'*/ " ++ "'it''s -- \"/*$$\\\\'" ++ " --'") =
        removeComments .all "a /*'*/ " ++ "'it''s -- \"/*$$\\\\'" ++ removeComments .all " --'" := by
  have hliteral : IsLiteral "it's -- \"/*$$\\".toList "'it''s -- \"/*$$\\\\'".toList :=
    IsLiteral.single
  have hbefore : ∀ c ∈ "a /*'*/ ".toList.getLast?, isBlank c = true := by
    rintro c ⟨⟩
    rfl
  have hafter : ∀ c ∈ " --'".toList.head?, isBlank c = true := by
    rintro c ⟨⟩
    rfl
  have hquote : (endState {} (moves .all {} "a /*'*/ ".toList)).inQuote = false := by
    decide +kernel
  have hcomment : (endState {} (moves .all {} "a /*'*/ ".toList)).inComment = false := by
    decide +kernel
  exact ⟨hliteral, hbefore, hafter, hquote, hcomment,
    removeComments_literal .all _ _ _ _ hliteral hbefore hafter hquote hcomment⟩

end SqlPrep.Comment
