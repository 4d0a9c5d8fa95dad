import SqlPrep.Proofs.Comment.Segmentation

/-!
# A segment with another text after it

Where a segment ends is decided by its own characters and by a little of the text that follows: a
line comment needs the line feed, and a closing mark must not meet a second one. Under these
conditions the text after a segment can be exchanged, and the segment is found again. So a region
that is written out, its opening and then a text that ends where the region does, is one segment.
-/

namespace SqlPrep.Comment

/-- A region that has just ended also ends there before this text. -/
def Region.EndsBefore (text : List Char) : Region → Prop
  | .lineComment => text.head? = some '\n'
  | .singleQuote => text.head? ≠ some '\''
  | .doubleQuote => text.head? ≠ some '"'
  | .blockComment | .dollarQuote _ => True

/-- A mark stands in a text at a position and nowhere before. -/
def FirstAt (mark text : List Char) (position : Nat) : Prop :=
  mark <+: text.drop position ∧ ∀ j < position, ¬ mark <+: text.drop j

/-- Whether a mark first stands at a position is decided by looking there and before. -/
instance (mark text : List Char) (position : Nat) : Decidable (FirstAt mark text position) :=
  inferInstanceAs (Decidable (_ ∧ _))

/-- A text that is cut off after a mark ends with the mark. -/
theorem splitAfter?_suffix {mark text inside after : List Char}
    (h : splitAfter? mark text = some (inside, after)) : mark <:+ inside := by
  fun_induction splitAfter? mark text generalizing inside with
  | case1 => simp at h
  | case2 => cases h; exact List.suffix_rfl
  | case3 c rest _ ih =>
    obtain ⟨inside', hsplit, rfl⟩ := map_putBefore_eq_some.mp h
    exact (ih hsplit).trans (List.suffix_append [c] inside')

/-- The cut after a mark does not depend on what follows. -/
theorem splitAfter?_exchange {mark text inside after : List Char} (hne : mark ≠ [])
    (h : splitAfter? mark text = some (inside, after)) (after' : List Char) :
    splitAfter? mark (inside ++ after') = some (inside, after') := by
  fun_induction splitAfter? mark text generalizing inside with
  | case1 => simp at h
  | case2 c rest hmark =>
    simp only [Option.some.injEq, Prod.mk.injEq] at h
    obtain ⟨rfl, -⟩ := h
    obtain ⟨d, tail, rfl⟩ := List.exists_cons_of_ne_nil hne
    rw [List.cons_append, splitAfter?, ← List.cons_append, if_pos (List.prefix_append _ _),
      List.drop_left]
  | case3 c rest hmark ih =>
    obtain ⟨inside', hsplit, rfl⟩ := map_putBefore_eq_some.mp h
    have hfresh : ¬ mark <+: c :: (inside' ++ after') := by
      intro hprefix
      have hlength := (splitAfter?_suffix hsplit).length_le
      have hinside : mark <+: c :: inside' :=
        List.prefix_of_prefix_length_le hprefix (List.prefix_append (c :: inside') after')
          (by rw [List.length_cons]; omega)
      refine hmark (hinside.trans ?_)
      rw [← splitAfter?_append hsplit]
      exact List.prefix_append (c :: inside') after
    rw [List.append_assoc, List.singleton_append, splitAfter?, if_neg hfresh, ih hsplit]
    rfl

/-- A text in front of the first occurrence of a mark is cut off with the mark. -/
theorem splitAfter?_of_firstAt {mark body : List Char} (hne : mark ≠ [])
    (h : FirstAt mark (body ++ mark) body.length) :
    splitAfter? mark (body ++ mark) = some (body ++ mark, []) := by
  induction body with
  | nil =>
    obtain ⟨c, tail, rfl⟩ := List.exists_cons_of_ne_nil hne
    rw [List.nil_append, splitAfter?, if_pos List.prefix_rfl, List.drop_length]
  | cons c body ih =>
    have hrest : FirstAt mark (body ++ mark) body.length :=
      ⟨h.1, fun j hj => h.2 (j + 1) (by simpa using hj)⟩
    have hfresh : ¬ mark <+: c :: (body ++ mark) := h.2 0 (by simp)
    rw [List.cons_append, splitAfter?, if_neg hfresh, ih hrest]
    rfl

/-- The cut after a closing mark does not depend on what follows, if no second mark does. -/
theorem splitQuote?_exchange {mark : Char} {text inside after after' : List Char}
    (hmark : mark ≠ '\\') (h : splitQuote? mark text = some (inside, after))
    (hafter : after'.head? ≠ some mark) :
    splitQuote? mark (inside ++ after') = some (inside, after') := by
  have hclose : splitQuote? mark (mark :: after') = some ([mark], after') := by
    cases after' with
    | nil => rw [splitQuote?, if_pos rfl]
    | cons d tail =>
      have hd : d ≠ mark := fun hd => hafter (by rw [hd, List.head?_cons])
      rw [splitQuote?, if_neg (by simp [hmark, hd]), if_pos rfl]
  fun_induction splitQuote? mark text generalizing inside with
  | case1 => simp at h
  | case2 => cases h; exact hclose
  | case3 => simp at h
  | case4 c d rest hunit ih =>
    obtain ⟨inside', hsplit, rfl⟩ := map_putBefore_eq_some.mp h
    rw [List.append_assoc, List.cons_append, List.singleton_append, splitQuote?, if_pos hunit,
      ih hsplit]
    rfl
  | case5 => cases h; exact hclose
  | case6 c d rest hunit hc ih =>
    obtain ⟨inside', hsplit, rfl⟩ := map_putBefore_eq_some.mp h
    have htail := ih hsplit
    rw [List.append_assoc, List.singleton_append]
    cases hrest : inside' ++ after' with
    | nil => rw [hrest] at htail; cases htail
    | cons e tail =>
      rw [hrest] at htail
      have hopen : ¬ (c = '\\' ∨ (c = mark ∧ e = mark)) := fun h =>
        h.elim (fun h => hunit (Or.inl h)) (fun h => hc h.1)
      rw [splitQuote?, if_neg hopen, if_neg hc, htail]
      rfl

/-- The cut before a line feed does not depend on what follows the line feed. -/
theorem splitLine?_exchange {text inside after after' : List Char}
    (h : splitLine? text = some (inside, after)) (hafter : after'.head? = some '\n') :
    splitLine? (inside ++ after') = some (inside, after') := by
  fun_induction splitLine? text generalizing inside with
  | case1 => simp at h
  | case2 =>
    cases h
    obtain ⟨tail, rfl⟩ := List.head?_eq_some_iff.mp hafter
    rw [List.nil_append, splitLine?, if_pos rfl]
  | case3 c rest hc ih =>
    obtain ⟨inside', hsplit, rfl⟩ := map_putBefore_eq_some.mp h
    rw [List.append_assoc, List.singleton_append, splitLine?, if_neg hc, ih hsplit]
    rfl

/-- A region ends at the same place before another text, if it ends before that text. -/
theorem Region.split?_exchange {region : Region} {text inside after after' : List Char}
    (h : region.split? text = some (inside, after)) (hafter : region.EndsBefore after') :
    region.split? (inside ++ after') = some (inside, after') := by
  cases region with
  | lineComment => exact splitLine?_exchange h hafter
  | blockComment => exact splitAfter?_exchange (by simp) h after'
  | singleQuote => exact splitQuote?_exchange (by decide) h hafter
  | doubleQuote => exact splitQuote?_exchange (by decide) h hafter
  | dollarQuote tag => exact splitAfter?_exchange (by simp [delimiter]) h after'

/-- No second mark follows a closing mark. -/
theorem splitQuote?_after {mark : Char} {text inside after : List Char}
    (h : splitQuote? mark text = some (inside, after)) : after.head? ≠ some mark := by
  fun_induction splitQuote? mark text generalizing inside with
  | case1 => simp at h
  | case2 => cases h; simp
  | case3 => simp at h
  | case4 c d rest _ ih =>
    obtain ⟨inside', hsplit, -⟩ := map_putBefore_eq_some.mp h
    exact ih hsplit
  | case5 d rest hunit => cases h; simp_all
  | case6 c d rest _ _ ih =>
    obtain ⟨inside', hsplit, -⟩ := map_putBefore_eq_some.mp h
    exact ih hsplit

/-- A text that is cut off after a closing mark ends with the mark. -/
theorem splitQuote?_getLast? {mark : Char} {text inside after : List Char}
    (h : splitQuote? mark text = some (inside, after)) : inside.getLast? = some mark := by
  fun_induction splitQuote? mark text generalizing inside with
  | case1 => simp at h
  | case2 => cases h; rfl
  | case3 => simp at h
  | case4 c d rest _ ih =>
    obtain ⟨inside', hsplit, rfl⟩ := map_putBefore_eq_some.mp h
    rw [List.getLast?_append, ih hsplit, Option.some_or]
  | case5 => cases h; rfl
  | case6 c d rest _ _ ih =>
    obtain ⟨inside', hsplit, rfl⟩ := map_putBefore_eq_some.mp h
    rw [List.getLast?_append, ih hsplit, Option.some_or]

/-- A region opens wherever its opening stands, if it is one of quotes or a comment that the strategy
removes. -/
theorem opened?_of_opening {strategy : Strategy} {c : Char} {rest : List Char} {region : Region}
    (htag : region.WellTagged) (hremoved : region.removedBy strategy = region.isComment)
    (hopening : region.opening <+: c :: rest) : opened? strategy c rest = some region := by
  cases region with
  | lineComment =>
    rw [opened?, if_pos ⟨hremoved, hopening⟩]
  | blockComment =>
    obtain ⟨rfl, -⟩ := pair_prefix_iff.mp hopening
    rw [opened?, if_neg (by simp), if_pos ⟨hremoved, hopening⟩]
  | singleQuote =>
    obtain ⟨tail, htail⟩ := hopening
    cases htail
    simp [opened?]
  | doubleQuote =>
    obtain ⟨tail, htail⟩ := hopening
    cases htail
    simp [opened?]
  | dollarQuote tag =>
    obtain ⟨rfl, hdollar⟩ := (delimiter_prefix_iff htag).mp hopening
    simp [opened?, hdollar]

/-- Behind its opening, a region is cut off where it ends. -/
theorem segments_region {strategy : Strategy} (region : Region) {inside after : List Char}
    (htag : region.WellTagged) (hremoved : region.removedBy strategy = region.isComment)
    (hsplit : region.split? (inside ++ after) = some (inside, after)) :
    segments strategy (region.opening ++ inside ++ after) =
      ⟨some region, region.opening ++ inside, true⟩ :: segments strategy after := by
  have hne : region.opening ≠ [] := by cases region <;> simp [Region.opening, delimiter]
  obtain ⟨c, tail, hopening⟩ := List.exists_cons_of_ne_nil hne
  have htext : c :: (tail ++ (inside ++ after)) = region.opening ++ (inside ++ after) := by
    rw [hopening, List.cons_append]
  have hopened := opened?_of_opening htag hremoved (htext ▸ List.prefix_append _ _)
  rw [List.append_assoc, ← htext]
  refine segments_cons ?_
  rw [firstSegment]
  simp only [hopened, htext, List.drop_left, hsplit]

/-- A first segment is cut again in front of another text, if its character opens nothing or its
region ends there, or if the other text is empty too. -/
theorem segments_exchange {strategy : Strategy} {c : Char} {rest after after' : List Char}
    {g : Segment} (h : firstSegment strategy c rest = (g, after))
    (hplain : g.region = none → opened? strategy c after' = none)
    (hends : ∀ region, g.region = some region → g.closed = true → region.EndsBefore after')
    (hopen : g.closed = false → after' = []) :
    segments strategy (g.text ++ after') = g :: segments strategy after' := by
  obtain ⟨-, rfl, -⟩ | ⟨region, hopened, ⟨inside, hsplit, rfl⟩ | ⟨-, rfl, rfl⟩⟩ :=
    firstSegment_cases h
  · have hfirst : firstSegment strategy c after' = (⟨none, [c], true⟩, after') := by
      rw [firstSegment, hplain rfl]
    exact segments_cons hfirst
  · obtain ⟨htag, hremoved⟩ := opened?_eq_some hopened
    exact segments_region region htag hremoved (Region.split?_exchange hsplit (hends region rfl rfl))
  · rw [hopen rfl, List.append_nil, segments_cons h]

end SqlPrep.Comment
