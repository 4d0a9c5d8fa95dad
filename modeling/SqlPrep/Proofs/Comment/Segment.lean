import SqlPrep.Comment.Removal

/-!
# Cutting a text into segments

A second account of comment removal, without flags and without single steps. A text is cut from
left to right into comments, quoted regions and plain characters; each comment or region is found
whole, by its opening and by the first place where it ends, and one that does not end runs to the
end of the text.

This file only says where segments begin and end. That the scan agrees with it is shown separately.
-/

namespace SqlPrep.Comment

/-- A text cut in two, the second part after a place that was looked for. -/
abbrev Split := List Char × List Char

/-- Put characters in front of the first part. -/
def Split.putBefore (front : List Char) (split : Split) : Split := (front ++ split.1, split.2)

/-- Cut after the first occurrence of a mark. -/
def splitAfter? (mark : List Char) : List Char → Option Split
  | [] => none
  | c :: rest =>
    if mark <+: c :: rest then some (mark, (c :: rest).drop mark.length)
    else (splitAfter? mark rest).map (Split.putBefore [c])

/-- Cut after the mark that closes a quoted text. A backslash with the character after it, and two
adjacent marks, do not close it. -/
def splitQuote? (mark : Char) : List Char → Option Split
  | [] => none
  | [c] => if c = mark then some ([c], []) else none
  | c :: d :: rest =>
    if c = '\\' ∨ (c = mark ∧ d = mark) then (splitQuote? mark rest).map (Split.putBefore [c, d])
    else if c = mark then some ([c], d :: rest)
    else (splitQuote? mark (d :: rest)).map (Split.putBefore [c])

/-- Cut before the first line feed. -/
def splitLine? : List Char → Option Split
  | [] => none
  | c :: rest =>
    if c = '\n' then some ([], c :: rest) else (splitLine? rest).map (Split.putBefore [c])

/-- The tag of a dollar delimiter, read after its first dollar sign: all the tag characters that
follow, if a dollar sign comes next. -/
def dollarTag? (rest : List Char) : Option (List Char) :=
  if (rest.dropWhile isTagChar).head? = some '$' then some (rest.takeWhile isTagChar) else none

/-- A part of a text that is found whole: a comment, or text in quotes. -/
inductive Region where
  | lineComment
  | blockComment
  | singleQuote
  | doubleQuote
  | dollarQuote (tag : List Char)
  deriving DecidableEq

namespace Region

/-- A comment of either kind. -/
def isComment : Region → Bool
  | .lineComment | .blockComment => true
  | .singleQuote | .doubleQuote | .dollarQuote _ => false

/-- The characters that open a region. -/
def opening : Region → List Char
  | .lineComment => ['-', '-']
  | .blockComment => ['/', '*']
  | .singleQuote => ['\'']
  | .doubleQuote => ['"']
  | .dollarQuote tag => delimiter tag

/-- The mark around a text in single or double quotes. -/
def mark? : Region → Option Char
  | .singleQuote => some '\''
  | .doubleQuote => some '"'
  | .lineComment | .blockComment | .dollarQuote _ => none

/-- Cut the text after an opening where the region ends. The line feed after a line comment does
not belong to it. -/
def split? : Region → List Char → Option Split
  | .lineComment => splitLine?
  | .blockComment => splitAfter? ['*', '/']
  | .singleQuote => splitQuote? '\''
  | .doubleQuote => splitQuote? '"'
  | .dollarQuote tag => splitAfter? (delimiter tag)

/-- Whether a strategy removes a region. -/
def removedBy (strategy : Strategy) : Region → Bool
  | .lineComment => strategy.removesOneline
  | .blockComment => strategy.removesMultiline
  | .singleQuote | .doubleQuote | .dollarQuote _ => false

end Region

/-- The region that opens at a character outside all others, if comments of a kind that the
strategy keeps are not looked for. -/
def opened? (strategy : Strategy) (c : Char) (rest : List Char) : Option Region :=
  if strategy.removesOneline ∧ ['-', '-'] <+: c :: rest then some .lineComment
  else if strategy.removesMultiline ∧ ['/', '*'] <+: c :: rest then some .blockComment
  else if c = '\'' then some .singleQuote
  else if c = '"' then some .doubleQuote
  else if c = '$' then (dollarTag? rest).map .dollarQuote
  else none

/-- A part of a text that is kept or removed as a whole: a region, closed or not, or a single plain
character. -/
structure Segment where
  region : Option Region
  text : List Char
  closed : Bool
  deriving DecidableEq

/-- Whether a strategy removes a segment. -/
def Segment.removedBy (strategy : Strategy) (g : Segment) : Bool :=
  g.region.any (Region.removedBy strategy)

/-- The first segment of a text, and the text after it. -/
def firstSegment (strategy : Strategy) (c : Char) (rest : List Char) : Segment × List Char :=
  match opened? strategy c rest with
  | none => (⟨none, [c], true⟩, rest)
  | some region =>
    match region.split? ((c :: rest).drop region.opening.length) with
    | some (inside, after) => (⟨region, region.opening ++ inside, true⟩, after)
    | none => (⟨region, c :: rest, false⟩, [])

/-- The text of segments in a row. -/
def joined (segments : List Segment) : List Char :=
  segments.flatMap Segment.text

/-- The text of the segments that a strategy keeps. -/
def keptText (strategy : Strategy) (segments : List Segment) : List Char :=
  joined (segments.filter fun g => !g.removedBy strategy)

/-- The kept text is what is kept of the first segment and then of the others. -/
theorem keptText_cons (strategy : Strategy) (g : Segment) (segments : List Segment) :
    keptText strategy (g :: segments) =
      (if g.removedBy strategy then [] else g.text) ++ keptText strategy segments := by
  cases h : g.removedBy strategy <;> simp [keptText, joined, h]

/-- A split with characters put in front comes from a split without them. -/
theorem map_putBefore_eq_some {split? : Option Split} {front inside after : List Char} :
    split?.map (Split.putBefore front) = some (inside, after) ↔
      ∃ inside', split? = some (inside', after) ∧ front ++ inside' = inside := by
  constructor
  · intro h
    obtain ⟨⟨inside', after'⟩, hsplit, heq⟩ := Option.map_eq_some_iff.mp h
    simp only [Split.putBefore, Prod.mk.injEq] at heq
    exact ⟨inside', by rw [hsplit, heq.2], heq.1⟩
  · rintro ⟨inside', rfl, rfl⟩
    rfl

/-- A cut after a mark loses nothing. -/
theorem splitAfter?_append {mark text inside after : List Char}
    (h : splitAfter? mark text = some (inside, after)) : inside ++ after = text := by
  fun_induction splitAfter? mark text generalizing inside with
  | case1 => simp at h
  | case2 c rest hmark =>
    obtain ⟨tail, htail⟩ := hmark
    simp only [← htail, List.drop_left, Option.some.injEq, Prod.mk.injEq] at h
    rw [← h.1, ← h.2, htail]
  | case3 c rest _ ih =>
    obtain ⟨inside', hsplit, rfl⟩ := map_putBefore_eq_some.mp h
    rw [List.append_assoc, ih hsplit, List.singleton_append]

/-- A cut after a closing mark loses nothing. -/
theorem splitQuote?_append {mark : Char} {text inside after : List Char}
    (h : splitQuote? mark text = some (inside, after)) : inside ++ after = text := by
  fun_induction splitQuote? mark text generalizing inside with
  | case1 => simp at h
  | case2 => cases h; rfl
  | case3 => simp at h
  | case4 c d rest _ ih =>
    obtain ⟨inside', hsplit, rfl⟩ := map_putBefore_eq_some.mp h
    rw [List.append_assoc, ih hsplit, List.cons_append, List.singleton_append]
  | case5 => cases h; rfl
  | case6 c d rest _ _ ih =>
    obtain ⟨inside', hsplit, rfl⟩ := map_putBefore_eq_some.mp h
    rw [List.append_assoc, ih hsplit, List.singleton_append]

/-- A cut before a line feed loses nothing. -/
theorem splitLine?_append {text inside after : List Char}
    (h : splitLine? text = some (inside, after)) : inside ++ after = text := by
  fun_induction splitLine? text generalizing inside with
  | case1 => simp at h
  | case2 => cases h; rfl
  | case3 c rest _ ih =>
    obtain ⟨inside', hsplit, rfl⟩ := map_putBefore_eq_some.mp h
    rw [List.append_assoc, ih hsplit, List.singleton_append]

/-- Cutting a text where a region ends loses nothing. -/
theorem Region.split?_append {region : Region} {text inside after : List Char}
    (h : region.split? text = some (inside, after)) : inside ++ after = text := by
  cases region with
  | lineComment => exact splitLine?_append h
  | singleQuote | doubleQuote => exact splitQuote?_append h
  | blockComment | dollarQuote tag => exact splitAfter?_append h

/-- The text after a dollar sign begins with the rest of the delimiter that is read there. -/
theorem dollarTag?_eq_some {rest tag : List Char} (h : dollarTag? rest = some tag) :
    ∃ body, rest = tag ++ '$' :: body := by
  unfold dollarTag? at h
  split at h
  · next hdollar =>
    obtain ⟨body, hbody⟩ := List.head?_eq_some_iff.mp hdollar
    refine ⟨body, ?_⟩
    rw [← Option.some.inj h, ← hbody, List.takeWhile_append_dropWhile]
  · cases h

/-- A text begins with the opening of the region that opens at its first character. -/
theorem opening_append_drop {strategy : Strategy} {c : Char} {rest : List Char}
    {region : Region} (h : opened? strategy c rest = some region) :
    region.opening ++ (c :: rest).drop region.opening.length = c :: rest := by
  suffices region.opening <+: c :: rest by
    obtain ⟨body, hbody⟩ := this
    rw [← hbody, List.drop_left]
  unfold opened? at h
  split at h
  · next hline => cases h; exact hline.2
  · split at h
    · next hblock => cases h; exact hblock.2
    · split at h
      · next hc => cases h; simp [Region.opening, hc]
      · split at h
        · next hc => cases h; simp [Region.opening, hc]
        · split at h
          · next hc =>
            obtain ⟨tag, htag, rfl⟩ := Option.map_eq_some_iff.mp h
            obtain ⟨body, rfl⟩ := dollarTag?_eq_some htag
            exact ⟨body, by simp [Region.opening, delimiter, hc]⟩
          · cases h

/-- An opening begins with the character that it stands at. -/
theorem opening_eq_cons {strategy : Strategy} {c : Char} {rest : List Char} {region : Region}
    (h : opened? strategy c rest = some region) : ∃ tail, region.opening = c :: tail := by
  have hne : region.opening ≠ [] := by cases region <;> simp [Region.opening, delimiter]
  obtain ⟨d, tail, hopening⟩ := List.exists_cons_of_ne_nil hne
  have happend := opening_append_drop h
  rw [hopening, List.cons_append] at happend
  exact ⟨tail, by rw [hopening, (List.cons.inj happend).1]⟩

section FirstSegment

variable {strategy : Strategy} {c : Char} {rest after : List Char} {g : Segment}

/-- The first segment of a text is a plain character, a region that ends, or the whole text in a
region that does not end. -/
theorem firstSegment_cases (h : firstSegment strategy c rest = (g, after)) :
    (opened? strategy c rest = none ∧ g = ⟨none, [c], true⟩ ∧ after = rest) ∨
    ∃ region, opened? strategy c rest = some region ∧
      ((∃ inside, region.split? ((c :: rest).drop region.opening.length) = some (inside, after) ∧
          g = ⟨region, region.opening ++ inside, true⟩) ∨
        (region.split? ((c :: rest).drop region.opening.length) = none ∧
          g = ⟨region, c :: rest, false⟩ ∧ after = [])) := by
  unfold firstSegment at h
  cases hopened : opened? strategy c rest with
  | none =>
    rw [hopened] at h
    cases h
    exact Or.inl ⟨rfl, rfl, rfl⟩
  | some region =>
    refine Or.inr ⟨region, rfl, ?_⟩
    simp only [hopened] at h
    cases hsplit : region.split? ((c :: rest).drop region.opening.length) with
    | none =>
      simp only [hsplit] at h
      cases h
      exact Or.inr ⟨rfl, rfl, rfl⟩
    | some split =>
      obtain ⟨inside, after'⟩ := split
      simp only [hsplit] at h
      cases h
      exact Or.inl ⟨inside, rfl, rfl⟩

/-- The first segment and the text after it are the whole text. -/
theorem firstSegment_append (h : firstSegment strategy c rest = (g, after)) :
    g.text ++ after = c :: rest := by
  obtain ⟨-, rfl, rfl⟩ | ⟨region, hopened, ⟨inside, hsplit, rfl⟩ | ⟨-, rfl, rfl⟩⟩ :=
    firstSegment_cases h
  · rfl
  · rw [List.append_assoc, Region.split?_append hsplit, opening_append_drop hopened]
  · exact List.append_nil _

/-- The region of the first segment is the one that opens. -/
theorem firstSegment_region (h : firstSegment strategy c rest = (g, after)) :
    g.region = opened? strategy c rest := by
  obtain ⟨hopened, rfl, -⟩ | ⟨region, hopened, ⟨inside, -, rfl⟩ | ⟨-, rfl, -⟩⟩ :=
    firstSegment_cases h
  · exact hopened.symm
  · exact hopened.symm
  · exact hopened.symm

/-- A first segment outside all regions is the first character, which opens nothing. -/
theorem firstSegment_plain (h : firstSegment strategy c rest = (g, after))
    (hplain : g.region = none) :
    opened? strategy c rest = none ∧ g = ⟨none, [c], true⟩ ∧ after = rest := by
  refine (firstSegment_cases h).resolve_right ?_
  rintro ⟨region, hopened, -⟩
  rw [firstSegment_region h, hopened] at hplain
  cases hplain

/-- A first segment begins with the first character. -/
theorem firstSegment_text_eq_cons (h : firstSegment strategy c rest = (g, after)) :
    ∃ tail, g.text = c :: tail := by
  obtain ⟨-, rfl, -⟩ | ⟨region, hopened, ⟨inside, -, rfl⟩ | ⟨-, rfl, -⟩⟩ := firstSegment_cases h
  · exact ⟨[], rfl⟩
  · obtain ⟨tail, hopening⟩ := opening_eq_cons hopened
    exact ⟨tail ++ inside, by rw [hopening, List.cons_append]⟩
  · exact ⟨rest, rfl⟩

/-- A first segment in a region begins with the opening of the region. -/
theorem opening_prefix_text (h : firstSegment strategy c rest = (g, after)) {region : Region}
    (hregion : g.region = some region) : region.opening <+: g.text := by
  obtain ⟨-, rfl, -⟩ | ⟨opened, hopened, ⟨inside, -, rfl⟩ | ⟨-, rfl, -⟩⟩ := firstSegment_cases h
  · cases hregion
  · cases hregion
    exact List.prefix_append _ _
  · cases hregion
    exact ⟨_, opening_append_drop hopened⟩

/-- A segment that does not end leaves nothing after it. -/
theorem after_of_open (h : firstSegment strategy c rest = (g, after)) (hopen : g.closed = false) :
    after = [] := by
  obtain ⟨-, rfl, -⟩ | ⟨region, -, ⟨inside, -, rfl⟩ | ⟨-, -, hafter⟩⟩ := firstSegment_cases h
  · cases hopen
  · cases hopen
  · exact hafter

/-- A first segment takes at least one character. -/
theorem after_length_lt (h : firstSegment strategy c rest = (g, after)) :
    after.length < (c :: rest).length := by
  obtain ⟨tail, htext⟩ := firstSegment_text_eq_cons h
  rw [← firstSegment_append h, htext, List.length_append, List.length_cons]
  omega

end FirstSegment

/-- The segments of a text, from left to right. -/
def segments (strategy : Strategy) : List Char → List Segment
  | [] => []
  | c :: rest =>
    (firstSegment strategy c rest).1 :: segments strategy (firstSegment strategy c rest).2
termination_by text => text.length
decreasing_by exact after_length_lt rfl

/-- The empty text has no segments. -/
@[simp] theorem segments_nil (strategy : Strategy) : segments strategy [] = [] := by
  rw [segments]

/-- The segments of a text are its first segment and the segments of the text after it. -/
theorem segments_cons {strategy : Strategy} {c : Char} {rest after : List Char} {g : Segment}
    (h : firstSegment strategy c rest = (g, after)) :
    segments strategy (c :: rest) = g :: segments strategy after := by
  rw [segments, h]

/-- What holds of the empty text, and of a text if it holds of the text after the first segment,
holds of every text. -/
@[elab_as_elim] theorem segments_induction (strategy : Strategy) {motive : List Char → Prop}
    (nil : motive [])
    (cons : ∀ c rest g after, firstSegment strategy c rest = (g, after) → motive after →
      motive (c :: rest))
    (text : List Char) : motive text := by
  fun_induction segments strategy text with
  | case1 => exact nil
  | case2 c rest ih => exact cons c rest _ _ rfl ih

/-- A text is its segments in a row. -/
theorem joined_segments (strategy : Strategy) (text : List Char) :
    joined (segments strategy text) = text := by
  induction text using segments_induction strategy with
  | nil => rw [segments_nil]; rfl
  | cons c rest g after hfirst ih =>
    rw [segments_cons hfirst, joined, List.flatMap_cons, ← joined, ih, firstSegment_append hfirst]

/-- Every segment of a text is the first segment of a later part of the text. -/
theorem eq_firstSegment_of_mem {strategy : Strategy} {text : List Char} {g : Segment}
    (h : g ∈ segments strategy text) : ∃ c rest after, firstSegment strategy c rest = (g, after) := by
  induction text using segments_induction strategy with
  | nil => rw [segments_nil] at h; cases h
  | cons c rest g' after hfirst ih =>
    rw [segments_cons hfirst] at h
    rcases List.mem_cons.mp h with rfl | hmem
    · exact ⟨c, rest, after, hfirst⟩
    · exact ih hmem

end SqlPrep.Comment
