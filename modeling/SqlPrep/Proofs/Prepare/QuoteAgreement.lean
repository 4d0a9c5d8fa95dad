import SqlPrep.Proofs.Comment.Segmentation
import SqlPrep.Proofs.Spacing.BlankRuns

/-!
# The two scans agree about quotes

The form of a query for logs is scanned twice: for comments, and then, without them, for blank runs.
The second scan knows neither escapes nor dollar quotes. Where the first meets neither, the second
sees the same quotes open at every character that was kept, although a comment may have stood
between a closing and an opening mark that are now a doubled one. So folding touches exactly the
blank characters that the first scan saw outside quotes.
-/

namespace SqlPrep

/-- The characters that moves keep, each with the quotes that are open before its move. -/
def Comment.seen (st : Comment.ScanState) : List Comment.Move → List SeenChar
  | [] => []
  | m :: ms => m.emitted.map (⟨·, st.singleQuote, st.doubleQuote⟩) ++ Comment.seen m.after ms

namespace Prepare

open Comment (Region stateIn)

/-- The same single and double quotes are open for both scans. -/
def SameQuotes (st : Comment.ScanState) (sp : Spacing.ScanState) : Prop :=
  sp.singleQuote = st.singleQuote ∧ sp.doubleQuote = st.doubleQuote

/-- A state with neither a pending escape nor an open dollar quote. -/
def Plain (st : Comment.ScanState) : Prop :=
  st.escapePending = false ∧ st.dollarQuote = false

/-- The spacing scan follows a step of the scan for comments: on what the step keeps it sees the
same quotes, and it ends with the same quotes open. -/
def Follows (st : Comment.ScanState) (sp : Spacing.ScanState) (kept : List Char)
    (after : Comment.ScanState) : Prop :=
  List.Forall₂ SeenChar.Agrees (kept.map (⟨·, st.singleQuote, st.doubleQuote⟩))
    (Spacing.seenFrom sp kept) ∧ SameQuotes after (sp.afterText kept)

variable {st after : Comment.ScanState} {sp : Spacing.ScanState}

/-- Nothing kept is followed as long as the same quotes stay open. -/
theorem follows_nil (h : SameQuotes after sp) : Follows st sp [] after :=
  ⟨List.Forall₂.nil, h⟩

/-- One character is followed if it leads to the same open quotes. -/
theorem follows_singleton {c : Char} (h : SameQuotes st sp) (hnext : SameQuotes after (sp.next c)) :
    Follows st sp [c] after :=
  ⟨List.Forall₂.cons ⟨rfl, fun _ => ⟨h.1.symm, h.2.symm⟩⟩ List.Forall₂.nil, hnext⟩

/-- A character that is no mark leaves the same quotes open. -/
theorem SameQuotes.next_of_not_isMark {c : Char} (h : SameQuotes st sp)
    (hc : Spacing.isMark c = false) : SameQuotes st (sp.next c) := by
  rw [Spacing.next_of_not_isMark hc]
  exact h

/-- Inside quotes, a character other than the mark leaves the same quotes open. -/
theorem SameQuotes.next_inside {region : Region} {mark c : Char}
    (hmark : region.mark? = some mark) (h : SameQuotes region.state sp) (hc : c ≠ mark) :
    SameQuotes region.state (sp.next c) := by
  obtain ⟨single, double, space⟩ := sp
  obtain ⟨rfl, rfl⟩ := h
  cases region <;> cases hmark <;> simp [SameQuotes, Spacing.ScanState.next, Region.state, hc]

/-- The mark closes its quotes. -/
theorem SameQuotes.next_close {region : Region} {mark : Char} (hmark : region.mark? = some mark)
    (h : SameQuotes region.state sp) : SameQuotes {} (sp.next mark) := by
  obtain ⟨single, double, space⟩ := sp
  obtain ⟨rfl, rfl⟩ := h
  cases region <;> cases hmark <;> simp [SameQuotes, Spacing.ScanState.next, Region.state]

/-- Outside quotes, the mark opens its quotes. -/
theorem SameQuotes.next_open {region : Region} {mark : Char} (hmark : region.mark? = some mark)
    (h : SameQuotes {} sp) : SameQuotes region.state (sp.next mark) := by
  obtain ⟨single, double, space⟩ := sp
  obtain ⟨rfl, rfl⟩ := h
  cases region <;> cases hmark <;> simp [SameQuotes, Spacing.ScanState.next, Region.state]

/-- What a step puts out. -/
def stepOutput (s : Comment.Step) (c : Char) (rest : List Char) : List Char :=
  if s.kept then c :: rest.take s.extra else []

/-- The spacing scan follows a step inside single or double quotes. -/
theorem follows_quoted {strategy : Strategy} {region : Region} {mark c : Char} {rest : List Char}
    (hmark : region.mark? = some mark) (h : SameQuotes region.state sp)
    (hplain : Plain (Comment.step strategy region.state c rest).after) :
    Follows region.state sp (stepOutput (Comment.step strategy region.state c rest) c rest)
      (Comment.step strategy region.state c rest).after := by
  rw [Comment.step_quoted hmark] at hplain ⊢
  split at hplain
  · cases hplain.1
  · next hescape =>
    rw [if_neg hescape]
    split
    · next hc =>
      subst hc
      split
      · next hdoubled =>
        -- The spacing scan closes the quotes at the first mark and opens them again at the second.
        obtain ⟨tail, rfl⟩ := List.head?_eq_some_iff.mp hdoubled
        have hisMark : Spacing.isMark c = true := by cases region <;> cases hmark <;> rfl
        refine ⟨List.Forall₂.cons ⟨rfl, fun _ => ⟨h.1.symm, h.2.symm⟩⟩
          (List.Forall₂.cons ⟨rfl, fun hno => ?_⟩ List.Forall₂.nil),
          (h.next_close hmark).next_open hmark⟩
        rw [hisMark] at hno
        cases hno
      · exact follows_singleton h (h.next_close hmark)
    · next hc => exact follows_singleton h (h.next_inside hmark hc)

/-- The spacing scan follows a step outside all regions. -/
theorem follows_outside {strategy : Strategy} {c : Char} {rest : List Char} (h : SameQuotes {} sp)
    (hplain : Plain (Comment.step strategy {} c rest).after) :
    Follows {} sp (stepOutput (Comment.step strategy {} c rest) c rest)
      (Comment.step strategy {} c rest).after := by
  rw [Comment.step_outside] at hplain ⊢
  cases hopened : Comment.opened? strategy c rest with
  | none =>
    obtain ⟨-, -, hsingle, hdouble, -⟩ := Comment.opened?_eq_none_iff.mp hopened
    exact follows_singleton h
      (h.next_of_not_isMark (by simp [Spacing.isMark, hsingle, hdouble]))
  | some region =>
    rw [hopened] at hplain
    obtain ⟨tail, hopening⟩ := Comment.opening_eq_cons hopened
    cases region with
    | lineComment | blockComment => exact follows_nil h
    | singleQuote | doubleQuote =>
      cases hopening
      exact follows_singleton h (h.next_open rfl)
    | dollarQuote tag => cases hplain.2

/-- The spacing scan follows every step that sets no escape and opens no dollar quote. -/
theorem follows_step {strategy : Strategy} (hst : st.fault? = none) (hplain : Plain st)
    (h : SameQuotes st sp) {c : Char} {rest : List Char}
    (hafter : Plain (Comment.step strategy st c rest).after) :
    Follows st sp (stepOutput (Comment.step strategy st c rest) c rest)
      (Comment.step strategy st c rest).after := by
  obtain ⟨region, pending, rfl⟩ := (Comment.fault?_eq_none_iff st).mp hst
  obtain ⟨hpending, hdollar⟩ := hplain
  obtain rfl : pending = false := hpending
  rw [Comment.withEscape_false] at h hdollar hafter ⊢
  rcases region with _ | (_ | _ | _ | _ | tag)
  · exact follows_outside h hafter
  · rw [stateIn, Comment.step_lineComment] at hafter ⊢
    split
    · next hc =>
      subst hc
      exact follows_singleton h (h.next_of_not_isMark (by decide))
    · exact follows_nil h
  · rw [stateIn, Comment.step_blockComment] at hafter ⊢
    split <;> exact follows_nil h
  · exact follows_quoted rfl h hafter
  · exact follows_quoted rfl h hafter
  · cases hdollar

/-- The spacing scan of what is kept sees the same quotes as the scan for comments, as long as that
sets no escape and opens no dollar quote. -/
theorem seen_agrees {strategy : Strategy} (hst : st.fault? = none) (hplain : Plain st)
    (sp : Spacing.ScanState) (h : SameQuotes st sp) {text : List Char}
    (hall : ∀ m ∈ Comment.moves strategy st text, Plain m.after) :
    List.Forall₂ SeenChar.Agrees (Comment.seen st (Comment.moves strategy st text))
      (Spacing.seenFrom sp (Comment.emitted (Comment.moves strategy st text))) := by
  fun_induction Comment.moves strategy st text generalizing sp with
  | case1 => exact List.Forall₂.nil
  | case2 st c rest s ih =>
    obtain ⟨hafter, hrest⟩ := List.forall_mem_cons.mp hall
    obtain ⟨hhead, hsame⟩ := follows_step hst hplain h hafter
    have hvalid := (Comment.step_sound hst strategy c rest).after_valid
    rw [Comment.seen, Comment.emitted, List.flatMap_cons, Spacing.seenFrom_append]
    exact List.rel_append hhead (ih hvalid hafter _ hsame hrest)

/-- Only the kept characters are seen of moves. -/
theorem char_seen (st : Comment.ScanState) (ms : List Comment.Move) :
    (Comment.seen st ms).map SeenChar.char = Comment.emitted ms := by
  induction ms generalizing st with
  | nil => rfl
  | cons m ms ih =>
    rw [Comment.seen, List.map_append, ih, List.map_map, Comment.emitted, Comment.emitted,
      List.flatMap_cons]
    congr 1
    exact List.map_id m.emitted

/-- Where the scan for comments sets no escape and opens no dollar quote, the spacing scan of its
result sees the same quotes open at every character but the marks. So folding replaces every maximal
run of blank characters that the scan for comments saw outside quotes by one space, and changes
nothing else. -/
theorem scans_agree_on_quotes (strategy : Strategy) (sql : String)
    (hplain : ∀ m ∈ Comment.moves strategy {} sql.toList,
      m.after.escapePending = false ∧ m.after.dollarQuote = false) :
    let seen := Comment.seen {} (Comment.moves strategy {} sql.toList)
    let result := Comment.removeComments strategy sql
    seen.map SeenChar.char = result.toList ∧
      List.Forall₂ SeenChar.Agrees seen (Spacing.seen {} (Spacing.moves {} result.toList)) ∧
      Spacing.normalize result = String.ofList (foldBlankRuns seen) := by
  intro seen result
  have hresult : result.toList = Comment.emitted (Comment.moves strategy {} sql.toList) := by
    rw [← Comment.remove_text_eq_emitted]
    exact String.toList_ofList
  have hseen : List.Forall₂ SeenChar.Agrees seen (Spacing.seenFrom {} result.toList) := by
    rw [hresult]
    exact seen_agrees rfl ⟨rfl, rfl⟩ {} ⟨rfl, rfl⟩ hplain
  refine ⟨?_, agrees_trans hseen (Spacing.seen_moves_agrees {} _), ?_⟩
  · rw [hresult]
    exact char_seen {} _
  · rw [Spacing.normalize, Spacing.collapse_eq_foldBlankRuns hseen]

/-- A removed comment between two quoted texts leaves a doubled mark behind, and one between two
spaces leaves a run of two, which is folded. -/
theorem scans_agree_on_quotes_joined :
    (∀ m ∈ Comment.moves .all {} "'a  b'/*'*/'c' /*d*/ e".toList,
      m.after.escapePending = false ∧ m.after.dollarQuote = false) ∧
    Spacing.normalize (Comment.removeComments .all "'a  b'/*'*/'c' /*d*/ e") =
      "'a  b''c' e" := by
  have hplain : ∀ m ∈ Comment.moves .all {} "'a  b'/*'*/'c' /*d*/ e".toList,
      m.after.escapePending = false ∧ m.after.dollarQuote = false := by decide +kernel
  refine ⟨hplain, (scans_agree_on_quotes .all "'a  b'/*'*/'c' /*d*/ e" hplain).2.2.trans ?_⟩
  decide +kernel

end Prepare
end SqlPrep
