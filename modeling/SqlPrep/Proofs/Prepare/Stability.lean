import SqlPrep.Proofs.Comment.Idempotence
import SqlPrep.Proofs.Comment.PartialStrategy
import SqlPrep.Proofs.Prepare.Form
import SqlPrep.Proofs.Spacing.CanonicalForm

/-!
# Stability of the form for logs

Folding blank runs may change text that the scan for comments reads as quoted, since the spacing
scan knows neither escapes nor dollar quotes. It does no harm: the scan for comments never looks
past a blank character, every blank character is as good as any other to it outside comments, and of
every run at least one is left. So a text without comments is read in the same way after its blank
runs have been folded, and preparing a query for logs a second time changes nothing.
-/

namespace SqlPrep

open SqlPrep.Text

/-- What holds of the empty text, and of a text if it holds of the text after its first blank
character or after its first word, holds of every text. -/
@[elab_as_elim] theorem words_induction {motive : List Char → Prop} (nil : motive [])
    (blank : ∀ c rest, isBlank c = true → motive rest → motive (c :: rest))
    (word : ∀ w rest, w ≠ [] → (∀ c ∈ w, isBlank c = false) → (∀ c ∈ rest.head?, isBlank c = true) →
      motive rest → motive (w ++ rest))
    (text : List Char) : motive text := by
  induction hlength : text.length using Nat.strongRecOn generalizing text with
  | ind n ih =>
    cases text with
    | nil => exact nil
    | cons c rest =>
      subst hlength
      cases hc : isBlank c with
      | true => exact blank c rest hc (ih _ (by simp) rest rfl)
      | false =>
        have hword : (c :: rest).takeWhile (fun d => !isBlank d) =
            c :: rest.takeWhile (fun d => !isBlank d) := by simp [hc]
        have hlength : ((c :: rest).dropWhile fun d => !isBlank d).length < (c :: rest).length := by
          have := (List.dropWhile_suffix (fun d => !isBlank d) (l := rest)).length_le
          simp only [List.dropWhile_cons, hc, Bool.not_false, ↓reduceIte, List.length_cons]
          omega
        rw [← List.takeWhile_append_dropWhile (p := fun d => !isBlank d) (l := c :: rest)]
        refine word _ _ (by rw [hword]; exact List.cons_ne_nil _ _) (fun d hd => ?_) (fun d hd => ?_)
          (ih _ hlength _ rfl)
        · simpa using List.all_eq_true.mp List.all_takeWhile d hd
        · have hfirst := List.head?_dropWhile_not (fun d => !isBlank d) (c :: rest)
          rw [Option.mem_def.mp hd] at hfirst
          simpa using hfirst

namespace Comment

variable {strategy : Strategy}

/-- Outside comments, a blank character is kept and only ends an escape. -/
theorem step_blank {st : ScanState} (hst : st.fault? = none) (hout : st.inComment = false) {c : Char}
    (hc : isBlank c = true) (rest : List Char) :
    step strategy st c rest = keep 0 (st.withEscape false) := by
  have hlooked : lookedFor c = false := lookedFor_of_isBlank hc
  have hescape : c ≠ '\\' := by
    rintro rfl
    cases hc
  simp only [lookedFor, Bool.or_eq_false_iff, beq_eq_false_iff_ne] at hlooked
  obtain ⟨⟨⟨⟨⟨⟨hdash, -⟩, hslash⟩, hsingle⟩, hdouble⟩, hdollar⟩, -⟩ := hlooked
  obtain ⟨region, pending, rfl⟩ := (fault?_eq_none_iff st).mp hst
  cases pending with
  | true =>
    have hkept : (!(stateIn region).inComment) = true := by rw [Bool.not_eq_true']; exact hout
    rw [step_withEscape, hkept]
    rfl
  | false =>
    rw [withEscape_false] at hout ⊢
    rw [withEscape_false]
    cases region with
    | none =>
      have hopened : opened? strategy c rest = none := opened?_eq_none_iff.mpr
        ⟨fun h => hdash h.2.1, fun h => hslash h.2.1, hsingle, hdouble, fun h => absurd h hdollar⟩
      rw [stateIn, step_outside, hopened]
    | some region =>
      have hregion : region.isComment = false := by rw [← region.inComment_state]; exact hout
      exact step_plain hregion (by simp [hescape, hsingle, hdouble, hdollar]) strategy rest

/-- The moves that take more than blank characters. -/
def solid (ms : List Move) : List Move :=
  ms.filter fun m => !m.taken.all isBlank

/-- The solid moves of moves in a row are those of both parts. -/
theorem solid_append (ms ns : List Move) : solid (ms ++ ns) = solid ms ++ solid ns :=
  List.filter_append ms ns

/-- A move that takes one blank character is not solid. -/
theorem solid_blank {c : Char} (hc : isBlank c = true) (kept : Bool) (after : ScanState)
    (ms : List Move) : solid (⟨[c], kept, after⟩ :: ms) = solid ms := by
  simp [solid, hc]

/-- Two texts that the scan reads alike from a state: it keeps the second whole, makes the same
moves in both but for those that take blank characters only, and ends in the same state. -/
structure ReadAlike (strategy : Strategy) (st : ScanState) (text text' : List Char) : Prop where
  kept : ∀ m ∈ moves strategy st text', m.kept = true
  solid_eq : solid (moves strategy st text') = solid (moves strategy st text)
  endState_eq : endState st (moves strategy st text') = endState st (moves strategy st text)

/-- One blank character for another before texts that are read alike. -/
theorem ReadAlike.blank {st : ScanState} (hst : st.fault? = none) (hout : st.inComment = false)
    {c c' : Char} (hc : isBlank c = true) (hc' : isBlank c' = true) {rest rest' : List Char}
    (h : ReadAlike strategy (st.withEscape false) rest rest') :
    ReadAlike strategy st (c :: rest) (c' :: rest') := by
  have hmoves (d : Char) (hd : isBlank d = true) (back : List Char) :
      moves strategy st (d :: back) =
        ⟨[d], true, st.withEscape false⟩ :: moves strategy (st.withEscape false) back := by
    rw [moves_cons, step_blank hst hout hd]
    rfl
  refine ⟨?_, ?_, ?_⟩
  · rw [hmoves c' hc']
    exact List.forall_mem_cons.mpr ⟨rfl, h.kept⟩
  · rw [hmoves c hc, hmoves c' hc', solid_blank hc, solid_blank hc', h.solid_eq]
  · rw [hmoves c hc, hmoves c' hc']
    exact h.endState_eq

/-- A blank character more before texts that are read alike. -/
theorem ReadAlike.drop_blank {st : ScanState} (hst : st.fault? = none) (hout : st.inComment = false)
    (hescape : st.escapePending = false) {c : Char} (hc : isBlank c = true) {rest rest' : List Char}
    (h : ReadAlike strategy st rest rest') : ReadAlike strategy st (c :: rest) rest' := by
  have hsame : st.withEscape false = st := by rw [ScanState.withEscape, ← hescape]
  have hmoves : moves strategy st (c :: rest) = ⟨[c], true, st⟩ :: moves strategy st rest := by
    rw [moves_cons, step_blank hst hout hc, hsame]
    rfl
  refine ⟨h.kept, ?_, ?_⟩
  · rw [hmoves, solid_blank hc, h.solid_eq]
  · rw [hmoves]
    exact h.endState_eq

/-- A word before texts that are read alike and begin with blank characters. -/
theorem ReadAlike.word {st : ScanState} (hst : st.fault? = none) {w rest rest' : List Char}
    (hkept : ∀ m ∈ moves strategy st w, m.kept = true)
    (hrest : ∀ c ∈ rest.head?, isBlank c = true) (hrest' : ∀ c ∈ rest'.head?, isBlank c = true)
    (h : ReadAlike strategy (endState st (moves strategy st w)) rest rest') :
    ReadAlike strategy st (w ++ rest) (w ++ rest') := by
  have hmoves := moves_append hst (separated_of_blank strategy w hrest)
  have hmoves' := moves_append hst (separated_of_blank strategy w hrest')
  refine ⟨?_, ?_, ?_⟩
  · rw [hmoves']
    exact List.forall_mem_append.mpr ⟨hkept, h.kept⟩
  · rw [hmoves, hmoves', solid_append, solid_append, h.solid_eq]
  · rw [hmoves, hmoves', endState_append, endState_append, h.endState_eq]

end Comment

namespace Spacing

/-- After a word no space has just been put out, and the word is put out as it is. -/
theorem written_word {w : List Char} (hw : ∀ c ∈ w, isBlank c = false) (st : ScanState) :
    written st w = w ∧ (w ≠ [] → (st.afterText w).afterSpace = false) := by
  induction w generalizing st with
  | nil => exact ⟨rfl, fun h => absurd rfl h⟩
  | cons c rest ih =>
    obtain ⟨hc, hrest⟩ := List.forall_mem_cons.mp hw
    obtain ⟨hwritten, hafter⟩ := ih hrest (st.next c)
    refine ⟨by rw [written, output_of_not_isBlank hc, hwritten, List.singleton_append], fun _ => ?_⟩
    cases rest with
    | nil => simp [ScanState.afterText, ScanState.next, hc, apply_ite ScanState.afterSpace]
    | cons d rest => exact hafter (List.cons_ne_nil d rest)

/-- Where no space has just been put out, a text that begins with a blank character still does. -/
theorem head?_written {st : ScanState} (hspace : st.afterSpace = false) {text : List Char}
    (h : ∀ c ∈ text.head?, isBlank c = true) : ∀ c ∈ (written st text).head?, isBlank c = true := by
  cases text with
  | nil => exact h
  | cons d rest =>
    have hd : isBlank d = true := h d rfl
    intro c hc
    unfold written ScanState.output at hc
    rw [hspace, if_neg Bool.false_ne_true] at hc
    split at hc <;> cases hc
    · rfl
    · exact hd

end Spacing

namespace Prepare

open Comment (moves endState ReadAlike)

variable {strategy : Strategy}

/-- Outside comments, a text that the scan for comments keeps whole is read alike after its blank
runs have been folded. -/
theorem readAlike_written (text : List Char) (sp : Spacing.ScanState) {st : Comment.ScanState}
    (hst : st.fault? = none) (hout : st.inComment = false)
    (hescape : sp.afterSpace = true → st.escapePending = false)
    (hkept : ∀ m ∈ moves strategy st text, m.kept = true) :
    ReadAlike strategy st text (Spacing.written sp text) := by
  induction text using words_induction generalizing sp st with
  | nil => exact ⟨hkept, rfl, rfl⟩
  | blank c rest hc ih =>
    have hnext : ReadAlike strategy (st.withEscape false) rest (Spacing.written (sp.next c) rest) := by
      have hvalid := (Comment.step_sound hst strategy c rest).after_valid
      rw [Comment.moves_cons, Comment.step_blank hst hout hc] at hkept
      rw [Comment.step_blank hst hout hc] at hvalid
      exact ih (sp.next c) hvalid hout (fun _ => rfl)
        fun m hm => hkept m (List.mem_cons_of_mem _ hm)
    rw [Spacing.written, Spacing.ScanState.output]
    split
    · cases hspace : sp.afterSpace with
      | false => exact hnext.blank hst hout hc rfl
      | true =>
        -- The space of this run has been put out, so the blank character before this one has
        -- already ended an escape.
        have hsame : st.withEscape false = st := by
          rw [Comment.ScanState.withEscape, ← hescape hspace]
        rw [hsame] at hnext
        exact hnext.drop_blank hst hout (hescape hspace) hc
    · exact hnext.blank hst hout hc hc
  | word w rest hne hword hrest ih =>
    obtain ⟨hwritten, hafter⟩ := Spacing.written_word hword sp
    rw [Comment.moves_append hst (Comment.separated_of_blank strategy w hrest),
      List.forall_mem_append] at hkept
    rw [Spacing.written_append, hwritten]
    refine ReadAlike.word hst hkept.1 hrest (Spacing.head?_written (hafter hne) hrest) ?_
    refine ih _ (Comment.fault?_endState hst w)
      (Comment.inComment_endState_of_kept hst hout hkept.1) (fun hspace => ?_) hkept.2
    rw [hafter hne] at hspace
    cases hspace

/-- A text without comments is read alike after its blank runs have been folded. -/
theorem readAlike_collapse {text : List Char} (h : (Comment.remove strategy text).text = text) :
    ReadAlike strategy {} text (Spacing.collapse text) := by
  rw [Spacing.collapse_eq_written]
  exact readAlike_written text {} rfl rfl (fun h => by cases h)
    (Comment.remove_text_eq_self_iff_kept.mp h)

/-- Folding the blank runs of a text without comments makes no comment. -/
theorem removeComments_normalize {sql : String}
    (h : Comment.removeComments strategy sql = sql) :
    Comment.removeComments strategy (Spacing.normalize sql) = Spacing.normalize sql := by
  have htext : (Comment.remove strategy sql.toList).text = sql.toList := by
    have hlist := congrArg String.toList h
    rwa [Comment.removeComments, String.toList_ofList] at hlist
  rw [Comment.removeComments, Spacing.normalize, String.toList_ofList,
    Comment.remove_text_eq_self_iff_kept.mpr (readAlike_collapse htext).kept]

/-- Folding the blank runs of a form for logs folds nothing more. -/
theorem normalize_normalize (sql : String) :
    Spacing.normalize (Spacing.normalize sql) = Spacing.normalize sql := by
  rw [Spacing.normalize, Spacing.normalize, String.toList_ofList, Spacing.collapse_collapse]

/-- What removal leaves alone, removal leaves alone after its blank runs have been folded. -/
theorem removal_formText {source : Source} {sql : String}
    (h : removal strategy source true (removal strategy source true sql) =
      removal strategy source true sql) :
    removal strategy source true (formText strategy source true sql) =
      formText strategy source true sql := by
  rw [formText, if_pos rfl]
  by_cases happlies : source.applies true = true
  · simp only [removal, if_pos happlies] at h ⊢
    exact removeComments_normalize h
  · simp only [removal, if_neg happlies]

/-- Without block comments to remove, or with no removal at all, a second removal changes
nothing. -/
theorem removal_removal_of_keepsBlock {source : Source}
    (h : strategy = .none ∨ strategy = .oneline ∨ source.applies true = false) (sql : String) :
    removal strategy source true (removal strategy source true sql) =
      removal strategy source true sql := by
  unfold removal
  split
  · next happlies =>
    have hkeeps : strategy.removesMultiline = false := by
      rcases h with rfl | rfl | hoff
      · rfl
      · rfl
      · rw [happlies] at hoff
        cases hoff
    have hfree : Comment.JoinFree {} [] (moves strategy {} sql.toList) :=
      Comment.joinFree_of_keepsBlock hkeeps rfl rfl [] sql.toList
    rw [Comment.removeComments, Comment.removeComments, String.toList_ofList, hfree.remove_remove]
  · rfl

/-- If a second removal of comments changes nothing, preparing a query for logs a second time
changes nothing either: removal leaves the form for logs as it is, and so does the whole
preparation. Where comments are removed, the scan for comments reads the form for logs as it reads
the text that was folded: the moves differ in blank characters only, and the same is open at the
end. Without block comments to remove, or with no removal at all, there is no condition. -/
theorem logForm_stable (raw : Entries) (sql : String) :
    ∃ strategy source reported,
      Settings.strategy (.map (Settings.build raw).config) = .ok strategy ∧
      Settings.source (.map (Settings.build raw).config) = .ok source ∧
      prepare (.map raw) true sql = .ok reported ∧
      (removal strategy source true (removal strategy source true sql) =
            removal strategy source true sql ∨
          strategy = .none ∨ strategy = .oneline ∨ source.applies true = false →
        removal strategy source true reported.text = reported.text ∧
        (∃ again, prepare (.map raw) true reported.text = .ok again ∧ again.text = reported.text) ∧
        (source.applies true = true →
          ReadAlike strategy {} (removal strategy source true sql).toList
            reported.text.toList)) := by
  obtain ⟨strategy, hstrategy⟩ := Settings.strategy_build raw
  obtain ⟨source, hsource⟩ := Settings.source_build raw
  refine ⟨strategy, source, _, hstrategy, hsource, prepare_map_eq hstrategy hsource true sql,
    fun hcondition => ?_⟩
  have htwice := hcondition.elim id fun h => removal_removal_of_keepsBlock h sql
  have hstable := removal_formText htwice
  refine ⟨hstable, ⟨_, prepare_map_eq hstrategy hsource true _, ?_⟩, fun happlies => ?_⟩
  · change formText strategy source true (formText strategy source true sql) = _
    rw [formText, if_pos rfl, hstable, formText, if_pos rfl, normalize_normalize]
    rfl
  · rw [removal, if_pos happlies, removal, if_pos happlies] at htwice
    have hlist := congrArg String.toList htwice
    rw [Comment.removeComments, String.toList_ofList] at hlist
    change ReadAlike strategy {} _ (formText strategy source true sql).toList
    rw [formText, if_pos rfl, Spacing.normalize, String.toList_ofList, removal, if_pos happlies]
    exact readAlike_collapse hlist

/-- Blank runs that only the spacing scan sees outside quotes, one of them behind a backslash. -/
theorem logForm_stable_escaped :
    removal .all .all true (removal .all .all true "'\\' \\  '  $t$  a $t$ /*b*/-- c\n\n d") =
        removal .all .all true "'\\' \\  '  $t$  a $t$ /*b*/-- c\n\n d" ∧
      ∃ reported again,
        prepare (.map []) true "'\\' \\  '  $t$  a $t$ /*b*/-- c\n\n d" = .ok reported ∧
        prepare (.map []) true reported.text = .ok again ∧ again.text = reported.text := by
  have htwice :
      removal .all .all true (removal .all .all true "'\\' \\  '  $t$  a $t$ /*b*/-- c\n\n d") =
        removal .all .all true "'\\' \\  '  $t$  a $t$ /*b*/-- c\n\n d" := by decide +kernel
  obtain ⟨strategy, source, reported, hstrategy, hsource, hprepare, hstable⟩ :=
    logForm_stable [] "'\\' \\  '  $t$  a $t$ /*b*/-- c\n\n d"
  obtain rfl : strategy = .all := Except.ok.inj (hstrategy.symm.trans choices_nothing.1)
  obtain rfl : source = .all := Except.ok.inj (hsource.symm.trans choices_nothing.2)
  obtain ⟨-, ⟨again, hagain, htext⟩, -⟩ := hstable (Or.inl htwice)
  exact ⟨htwice, reported, again, hprepare, hagain, htext⟩

end Prepare
end SqlPrep
