import SqlPrep.Proofs.ScanProgress

/-!
# What a dollar delimiter is

A delimiter is read at a position exactly when the text there is a dollar sign, letters, digits and
underscores, and a dollar sign again; there is at most one such row of characters. So whether the
delimiter with a given tag is read somewhere is whether it stands there, and this is all that the
scan for comments looks at when it leaves a dollar quote. A delimiter that the scan takes, on the way
in or out, lies in the text.
-/

namespace SqlPrep.Comment

/-- A letter without accents, a digit or an underscore. -/
def IsWordChar (c : Char) : Prop :=
  'A' ≤ c ∧ c ≤ 'Z' ∨ 'a' ≤ c ∧ c ≤ 'z' ∨ '0' ≤ c ∧ c ≤ '9' ∨ c = '_'

/-- A delimiter with a tag of word characters that stands at a position of a text. -/
def Delimiter.StandsAt (d : Delimiter) (sql : List Char) (index : Nat) : Prop :=
  d.length = d.tag.length + 2 ∧ (∀ c ∈ d.tag, IsWordChar c) ∧
    sql.extract index (index + d.length) = '$' :: d.tag ++ ['$']

/-- A stride that takes exactly the delimiter at its position: it puts the delimiter out, and the
next position is the one after the delimiter, inside the text. -/
def Delimiter.TakenAt (d : Delimiter) (sql : List Char) (index : Nat) (s : Stride ScanState) :
    Prop :=
  d.StandsAt sql index ∧ s.output = delimiter d.tag ∧ s.next index = index + d.length ∧
    s.next index ≤ sql.length

/-! ## Reading a delimiter -/

/-- The characters of tags are the word characters. -/
theorem isTagChar_iff (c : Char) : isTagChar c = true ↔ IsWordChar c := by
  have hranges : isTagChar c = (decide ('A'.val ≤ c.val ∧ c.val ≤ 'Z'.val) ||
      ('a'.val ≤ c.val && c.val ≤ 'z'.val) || ('0'.val ≤ c.val && c.val ≤ '9'.val) ||
      c == '_') := rfl
  simp only [hranges, Bool.or_eq_true, Bool.and_eq_true, decide_eq_true_eq, beq_iff_eq, or_assoc]
  exact Iff.rfl

/-- Whether a character is a word character is decided as for tags. -/
instance : DecidablePred IsWordChar :=
  fun c => decidable_of_iff _ (isTagChar_iff c)

/-- The characters of a row are tag characters when they are word characters. -/
theorem forall_isTagChar_iff {tag : List Char} :
    (∀ c ∈ tag, isTagChar c = true) ↔ ∀ c ∈ tag, IsWordChar c :=
  forall₂_congr fun c _ => isTagChar_iff c

/-- A delimiter is two characters longer than its tag. -/
@[simp] theorem length_delimiter (tag : List Char) : (delimiter tag).length = tag.length + 2 := by
  simp [delimiter]

/-- The part of a text that is as long as a delimiter is the delimiter when the delimiter begins
the rest of the text. -/
theorem extract_eq_delimiter_iff {sql tag : List Char} {index : Nat} :
    sql.extract index (index + (tag.length + 2)) = '$' :: tag ++ ['$'] ↔
      delimiter tag <+: sql.drop index := by
  rw [List.extract_eq_take_drop, Nat.add_sub_cancel_left, List.prefix_iff_eq_take, length_delimiter,
    eq_comm, delimiter]

/-- A delimiter that stands at a position begins the rest of the text. -/
theorem Delimiter.standsAt_iff {d : Delimiter} {sql : List Char} {index : Nat} :
    d.StandsAt sql index ↔
      d.length = d.tag.length + 2 ∧ (∀ c ∈ d.tag, IsWordChar c) ∧
        delimiter d.tag <+: sql.drop index := by
  refine and_congr_right fun hlength => and_congr_right fun _ => ?_
  rw [hlength, extract_eq_delimiter_iff]

/-- A tag is read at the start of a text when its delimiter begins the text. -/
theorem tagAt?_eq_some_iff {text tag : List Char} :
    tagAt? text = some tag ↔ (∀ c ∈ tag, IsWordChar c) ∧ delimiter tag <+: text := by
  rw [← forall_isTagChar_iff]
  cases text with
  | nil => simp [tagAt?, delimiter]
  | cons c rest =>
    by_cases hc : c = '$'
    · subst hc
      rw [tagAt?, tagAfter?_eq_dollarTag?]
      constructor
      · intro h
        have htag := dollarTag?_isTagChar h
        exact ⟨htag, (delimiter_prefix_iff htag).mpr ⟨rfl, h⟩⟩
      · rintro ⟨htag, h⟩
        exact ((delimiter_prefix_iff htag).mp h).2
    · have hnone : tagAt? (c :: rest) = none := by
        unfold tagAt?
        split
        · next heq => exact absurd (List.cons.inj heq).1 hc
        · rfl
      rw [hnone]
      exact iff_of_false (by simp) fun h => hc ((delimiter_prefix_iff h.1).mp h.2).1

/-- The delimiter at a position is the one that stands there. -/
theorem delimiterAt?_eq_some_iff {sql : List Char} {index : Nat} {d : Delimiter} :
    delimiterAt? sql index = some d ↔ d.StandsAt sql index := by
  obtain ⟨tag, n⟩ := d
  rw [Delimiter.standsAt_iff, delimiterAt?, Option.map_eq_some_iff]
  constructor
  · rintro ⟨_, htag, heq⟩
    obtain ⟨rfl, rfl⟩ := Delimiter.mk.inj heq
    exact ⟨rfl, tagAt?_eq_some_iff.mp htag⟩
  · rintro ⟨hlength, htag⟩
    exact ⟨tag, tagAt?_eq_some_iff.mpr htag, congrArg _ hlength.symm⟩

/-- The tag read at a position is the one at the start of the rest of the text. -/
theorem map_tag_delimiterAt? (sql : List Char) (index : Nat) :
    (delimiterAt? sql index).map Delimiter.tag = tagAt? (sql.drop index) := by
  rw [delimiterAt?, Option.map_map]
  exact Option.map_id'

/-- Reading from a position that does not count from the end reads the delimiter there. -/
theorem delimiterSeen?_natCast (sql : List Char) (index : Nat) :
    delimiterSeen? sql (index : Int) = delimiterAt? sql index := by
  have hview : viewFrom sql (index : Int) = sql.drop index :=
    if_neg (Int.not_lt.mpr (Int.natCast_nonneg index))
  rw [delimiterSeen?, hview, delimiterAt?]
  cases htag : tagAt? (sql.drop index) with
  | none => rfl
  | some tag =>
    obtain ⟨body, hbody⟩ := (tagAt?_eq_some_iff.mp htag).2
    have hafter : sql.drop (index + 1) = tag ++ '$' :: body := by
      rw [← List.drop_drop, ← hbody]
      simp [delimiter]
    have hbetween : between sql (index + 1) (index + 1 + tag.length) = tag := by
      have hfirst : ((index : Int) + 1).toNat = index + 1 := by omega
      have hlast : ((index : Int) + 1 + tag.length).toNat = index + 1 + tag.length := by omega
      simp only [between]
      rw [if_neg (by omega), if_neg (by omega), hfirst, hlast, hafter, Nat.add_sub_cancel_left,
        List.take_left]
    rw [Option.map_some, Option.map_some, hbetween]

/-! ## The scan at delimiters -/

/-- A tag is open exactly inside its dollar quote. -/
theorem tag_stateIn {region : Option Region} {pending : Bool} {tag : List Char} :
    ((stateIn region).withEscape pending).tag = some tag ↔ region = some (.dollarQuote tag) := by
  rcases region with _ | (_ | _ | _ | _ | tag) <;>
    simp [stateIn, Region.state, ScanState.withEscape]

/-- A tag that is open after a step was open before it, or its delimiter opens outside all
regions. -/
theorem tag_after_step {strategy : Strategy} {region : Option Region} {pending : Bool} {c : Char}
    {rest tag : List Char}
    (h : (step strategy ((stateIn region).withEscape pending) c rest).after.tag = some tag) :
    region = some (.dollarQuote tag) ∨
      region = none ∧ pending = false ∧ opened? strategy c rest = some (.dollarQuote tag) := by
  cases pending with
  | true =>
    rw [step_withEscape] at h
    exact Or.inl (tag_stateIn.mp h)
  | false =>
    rw [withEscape_false] at h
    cases region with
    | none =>
      rw [stateIn, step_outside] at h
      cases hopened : opened? strategy c rest with
      | none =>
        rw [hopened] at h
        cases h
      | some region =>
        rw [hopened] at h
        have htag : ((stateIn (some region)).withEscape false).tag = some tag := h
        exact Or.inr ⟨rfl, rfl, tag_stateIn.mp htag⟩
    | some region =>
      obtain ⟨next, pending, hafter, hnext⟩ := step_inside_next strategy region c rest
      rw [stateIn, hafter, tag_stateIn] at h
      rcases hnext with hstay | hleave
      · exact Or.inl (hstay.symm.trans h)
      · rw [hleave] at h
        cases h

/-- Where the scan stands with an open tag, it is inside the dollar quote with this tag, no escape
is pending and the tag has word characters only. -/
theorem eq_dollarQuote_of_reached {strategy : Strategy} {sql : List Char} {index : Nat}
    {st : ScanState} (h : Reached (stride strategy) sql {} index st) {tag : List Char}
    (htag : st.tag = some tag) :
    st = Region.state (.dollarQuote tag) ∧ ∀ c ∈ tag, IsWordChar c := by
  obtain ⟨hst, hescape⟩ := escape_of_reached h
  constructor
  · obtain ⟨region, pending, rfl⟩ := (fault?_eq_none_iff st).mp hst
    obtain rfl := tag_stateIn.mp htag
    cases pending with
    | true => exact absurd (hescape rfl).1 Bool.noConfusion
    | false => exact withEscape_false _
  · clear hst hescape
    induction h with
    | start => cases htag
    | @turn index st h hreached ih =>
      obtain ⟨region, pending, rfl⟩ := (fault?_eq_none_iff st).mp (escape_of_reached hreached).1
      rcases tag_after_step htag with hstay | hopened
      · exact ih (tag_stateIn.mpr hstay)
      · exact forall_isTagChar_iff.mp (opened?_eq_some hopened.2.2).1

/-- A delimiter is the first of its characters and as many further ones as it has. -/
theorem cons_take_of_begins {tag rest : List Char} {c : Char}
    (h : delimiter tag <+: c :: rest) : c :: rest.take (tag.length + 1) = delimiter tag := by
  have htake := List.prefix_iff_eq_take.mp h
  rw [length_delimiter] at htake
  exact htake.symm

/-- Inside a dollar quote, the scan leaves the quote with the whole delimiter where the delimiter
stands, and anywhere else keeps one character and stays inside. -/
theorem strideAt_dollarQuote (strategy : Strategy) {sql : List Char} {index : Nat}
    (h : index < sql.length) {tag : List Char} (htag : ∀ c ∈ tag, IsWordChar c) :
    strideAt (stride strategy) sql index h (Region.state (.dollarQuote tag)) =
      if delimiter tag <+: sql.drop index then ⟨tag.length + 1, delimiter tag, {}⟩
      else ⟨0, [sql[index]], Region.state (.dollarQuote tag)⟩ := by
  have hbegins : delimiter tag <+: sql[index] :: sql.drop (index + 1) ↔
      sql[index] = '$' ∧ dollarTag? (sql.drop (index + 1)) = some tag :=
    delimiter_prefix_iff (forall_isTagChar_iff.mpr htag)
  rw [List.drop_eq_getElem_cons h, strideAt, stride, step_dollarQuote]
  simp only [hbegins]
  split
  · next hclose =>
    simp only [keep, ↓reduceIte, cons_take_of_begins (hbegins.mpr hclose)]
  · rfl

/-- A stride that opens a dollar quote takes a whole delimiter that stands there. -/
theorem strideAt_opening (strategy : Strategy) {sql : List Char} {index : Nat}
    (h : index < sql.length) {st : ScanState} (hst : st.fault? = none) (hout : st.tag = none)
    {tag : List Char} (htag : (strideAt (stride strategy) sql index h st).after.tag = some tag) :
    (∀ c ∈ tag, IsWordChar c) ∧ delimiter tag <+: sql.drop index ∧
      strideAt (stride strategy) sql index h st =
        ⟨tag.length + 1, delimiter tag, Region.state (.dollarQuote tag)⟩ := by
  obtain ⟨region, pending, rfl⟩ := (fault?_eq_none_iff st).mp hst
  obtain hregion | ⟨rfl, rfl, hopened⟩ := tag_after_step htag
  · rw [tag_stateIn.mpr hregion] at hout
    cases hout
  have hbegins : delimiter tag <+: sql[index] :: sql.drop (index + 1) :=
    ⟨_, opening_append_drop hopened⟩
  have hstep : step strategy ((stateIn none).withEscape false) sql[index] (sql.drop (index + 1)) =
      keep (tag.length + 1) (Region.state (.dollarQuote tag)) := by
    rw [withEscape_false, stateIn, step_outside, hopened]
    simp [Region.opening, Region.isComment, keep]
  rw [List.drop_eq_getElem_cons h]
  refine ⟨forall_isTagChar_iff.mp (opened?_eq_some hopened).1, hbegins, ?_⟩
  simp only [strideAt, stride, hstep, keep, ↓reduceIte, cons_take_of_begins hbegins]

/-- A stride that takes a whole delimiter, and leads to any state, takes exactly the delimiter. -/
theorem Delimiter.takenAt_of_begins {sql tag : List Char} {index : Nat} (h : index < sql.length)
    (htag : ∀ c ∈ tag, IsWordChar c) (hbegins : delimiter tag <+: sql.drop index)
    (after : ScanState) :
    (⟨tag, tag.length + 2⟩ : Delimiter).TakenAt sql index
      ⟨tag.length + 1, delimiter tag, after⟩ := by
  have hlength := hbegins.length_le
  rw [length_delimiter, List.length_drop] at hlength
  have hnext : (⟨tag.length + 1, delimiter tag, after⟩ : Stride ScanState).next index =
      index + (tag.length + 2) := by
    simp only [Stride.next]
    omega
  refine ⟨Delimiter.standsAt_iff.mpr ⟨rfl, htag, hbegins⟩, rfl, hnext, ?_⟩
  rw [hnext]
  omega

/-- Where the scan changes the open tag, it takes exactly the delimiter of the tag that it opens or
closes. -/
theorem exists_takenAt {strategy : Strategy} {sql : List Char} {index : Nat} {st : ScanState}
    (hreached : Reached (stride strategy) sql {} index st) (h : index < sql.length)
    (hchange : (strideAt (stride strategy) sql index h st).after.tag ≠ st.tag) :
    ∃ d : Delimiter, d.TakenAt sql index (strideAt (stride strategy) sql index h st) ∧
      (st.tag = none ∧ (strideAt (stride strategy) sql index h st).after.tag = some d.tag ∨
        st.tag = some d.tag ∧ (strideAt (stride strategy) sql index h st).after.tag = none) := by
  cases hopen : st.tag with
  | some tag =>
    obtain ⟨rfl, htag⟩ := eq_dollarQuote_of_reached hreached hopen
    rw [strideAt_dollarQuote strategy h htag] at hchange ⊢
    by_cases hbegins : delimiter tag <+: sql.drop index
    · rw [if_pos hbegins]
      exact ⟨_, Delimiter.takenAt_of_begins h htag hbegins {}, Or.inr ⟨rfl, rfl⟩⟩
    · rw [if_neg hbegins] at hchange
      exact absurd rfl hchange
  | none =>
    rw [hopen] at hchange
    obtain ⟨tag, hafter⟩ := Option.ne_none_iff_exists'.mp hchange
    obtain ⟨htag, hbegins, hstride⟩ :=
      strideAt_opening strategy h (escape_of_reached hreached).1 hopen hafter
    rw [hstride]
    exact ⟨_, Delimiter.takenAt_of_begins h htag hbegins _, Or.inl ⟨rfl, rfl⟩⟩

/-- A dollar delimiter is read exactly where a dollar sign, word characters and a dollar sign stand,
and there is at most one such row of characters. So the tag read at a position is a given one exactly
when its delimiter stands there, and inside a dollar quote the scan looks at nothing else. A scan is
inside a dollar quote only under a tag of word characters, and where it enters or leaves one it takes
exactly the delimiter, inside the text. -/
theorem delimiter_exact :
    (∀ (sql : List Char) (index : Nat),
      (∀ d : Delimiter, delimiterSeen? sql index = some d ↔ d.StandsAt sql index) ∧
      (∀ d e : Delimiter, d.StandsAt sql index → e.StandsAt sql index → d = e) ∧
      ((∀ d : Delimiter, ¬ d.StandsAt sql index) → delimiterSeen? sql index = none)) ∧
    (∀ (sql : List Char) (index : Nat) (tag : List Char), (∀ c ∈ tag, IsWordChar c) →
      ((delimiterSeen? sql index).map Delimiter.tag = some tag ↔
        sql.extract index (index + (tag.length + 2)) = '$' :: tag ++ ['$'])) ∧
    (∀ (strategy : Strategy) (sql : List Char) (index : Nat) (h : index < sql.length)
      (tag : List Char), (∀ c ∈ tag, IsWordChar c) →
      strideAt (stride strategy) sql index h (Region.state (.dollarQuote tag)) =
        if sql.extract index (index + (tag.length + 2)) = '$' :: tag ++ ['$'] then
          ⟨tag.length + 1, '$' :: tag ++ ['$'], {}⟩
        else ⟨0, [sql[index]], Region.state (.dollarQuote tag)⟩) ∧
    (∀ (strategy : Strategy) (sql : List Char) (index : Nat) (st : ScanState),
      Reached (stride strategy) sql {} index st →
      (∀ tag, st.tag = some tag →
        st = Region.state (.dollarQuote tag) ∧ ∀ c ∈ tag, IsWordChar c) ∧
      ∀ h : index < sql.length,
        (strideAt (stride strategy) sql index h st).after.tag ≠ st.tag →
        ∃ d : Delimiter, d.TakenAt sql index (strideAt (stride strategy) sql index h st) ∧
          (st.tag = none ∧ (strideAt (stride strategy) sql index h st).after.tag = some d.tag ∨
            st.tag = some d.tag ∧
              (strideAt (stride strategy) sql index h st).after.tag = none)) := by
  refine ⟨fun sql index => ⟨fun d => ?_, fun d e hd he => ?_, fun h => ?_⟩,
    fun sql index tag htag => ?_, fun strategy sql index h tag htag => ?_,
    fun strategy sql index st hreached =>
      ⟨fun tag htag => eq_dollarQuote_of_reached hreached htag, exists_takenAt hreached⟩⟩
  · rw [delimiterSeen?_natCast, delimiterAt?_eq_some_iff]
  · exact Option.some.inj
      ((delimiterAt?_eq_some_iff.mpr hd).symm.trans (delimiterAt?_eq_some_iff.mpr he))
  · rw [delimiterSeen?_natCast]
    exact Option.eq_none_iff_forall_ne_some.mpr fun d hd => h d (delimiterAt?_eq_some_iff.mp hd)
  · rw [delimiterSeen?_natCast, map_tag_delimiterAt?, tagAt?_eq_some_iff, and_iff_right htag,
      extract_eq_delimiter_iff]
  · simp only [extract_eq_delimiter_iff]
    exact strideAt_dollarQuote strategy h htag

/-- Two delimiters that share a dollar sign are both read, and at the last dollar sign none is. The
scan enters a dollar quote at the first one. Inside it, the second one does not close the quote; the
first one, where it stands again, does. -/
theorem delimiter_exact_overlapping :
    ((⟨['b'], 3⟩ : Delimiter).StandsAt ['$', 'a', '$', 'b', '$', 'a', '$'] 2 ∧
      delimiterSeen? ['$', 'a', '$', 'b', '$', 'a', '$'] (2 : Nat) = some ⟨['b'], 3⟩ ∧
      (∀ d : Delimiter, d.StandsAt ['$', 'a', '$', 'b', '$', 'a', '$'] 2 → ⟨['b'], 3⟩ = d) ∧
      (∀ d : Delimiter, ¬ d.StandsAt ['$', 'a', '$', 'b', '$', 'a', '$'] 6) ∧
      delimiterSeen? ['$', 'a', '$', 'b', '$', 'a', '$'] (6 : Nat) = none) ∧
    ((∀ c ∈ ['a'], IsWordChar c) ∧
      (delimiterSeen? ['$', 'a', '$', 'b', '$', 'a', '$'] (4 : Nat)).map Delimiter.tag =
        some ['a'] ∧
      strideAt (stride .all) ['$', 'a', '$', 'b', '$', 'a', '$'] 2 (by decide)
        (Region.state (.dollarQuote ['a'])) = ⟨0, ['$'], Region.state (.dollarQuote ['a'])⟩ ∧
      strideAt (stride .all) ['$', 'a', '$', 'b', '$', 'a', '$'] 4 (by decide)
        (Region.state (.dollarQuote ['a'])) = ⟨2, ['$', 'a', '$'], {}⟩) ∧
    (Reached (stride .all) ['$', 'a', '$', 'b', '$', 'a', '$'] {} 4
        (Region.state (.dollarQuote ['a'])) ∧
      (Region.state (.dollarQuote ['a'])).tag = some ['a'] ∧
      (strideAt (stride .all) ['$', 'a', '$', 'b', '$', 'a', '$'] 4 (by decide)
        (Region.state (.dollarQuote ['a']))).after.tag ≠
          (Region.state (.dollarQuote ['a'])).tag ∧
      ∃ d : Delimiter, d.TakenAt ['$', 'a', '$', 'b', '$', 'a', '$'] 4
        (strideAt (stride .all) ['$', 'a', '$', 'b', '$', 'a', '$'] 4 (by decide)
          (Region.state (.dollarQuote ['a'])))) := by
  obtain ⟨hread, htag, hclose, hscan⟩ := delimiter_exact
  have hstands : (⟨['b'], 3⟩ : Delimiter).StandsAt ['$', 'a', '$', 'b', '$', 'a', '$'] 2 :=
    ⟨rfl, List.forall_mem_singleton.mpr (by decide), rfl⟩
  have hnone : ∀ d : Delimiter, ¬ d.StandsAt ['$', 'a', '$', 'b', '$', 'a', '$'] 6 := by
    rintro d ⟨hlength, -, hd⟩
    have hshort := congrArg List.length hd
    simp only [List.extract_eq_take_drop, List.length_take, List.length_drop, List.length_append,
      List.length_cons, List.length_nil] at hshort
    omega
  have hword : ∀ c ∈ ['a'], IsWordChar c := List.forall_mem_singleton.mpr (by decide)
  have hinside : Reached (stride .all) ['$', 'a', '$', 'b', '$', 'a', '$'] {} 3
      (Region.state (.dollarQuote ['a'])) := .turn (show 0 < 7 by decide) .start
  have hreached : Reached (stride .all) ['$', 'a', '$', 'b', '$', 'a', '$'] {} 4
      (Region.state (.dollarQuote ['a'])) := .turn (show 3 < 7 by decide) hinside
  have hchange : (strideAt (stride .all) ['$', 'a', '$', 'b', '$', 'a', '$'] 4 (by decide)
      (Region.state (.dollarQuote ['a']))).after.tag ≠
        (Region.state (.dollarQuote ['a'])).tag := by decide
  obtain ⟨d, htaken, -⟩ := (hscan _ _ _ _ hreached).2 (by decide) hchange
  exact ⟨⟨hstands, ((hread _ _).1 _).mpr hstands, fun d => (hread _ _).2.1 _ d hstands, hnone,
      (hread _ _).2.2 hnone⟩,
    ⟨hword, (htag _ _ _ hword).mpr rfl, (hclose _ _ _ _ _ hword).trans (if_neg (by decide)),
      (hclose _ _ _ _ _ hword).trans (if_pos rfl)⟩,
    ⟨hreached, rfl, hchange, d, htaken⟩⟩

end SqlPrep.Comment
