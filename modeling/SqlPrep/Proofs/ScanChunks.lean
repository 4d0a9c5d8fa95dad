import SqlPrep.Proofs.Comment.Lookahead
import SqlPrep.Proofs.ScanProgress
import SqlPrep.Proofs.Spacing.Written

/-!
# Scans of a text in chunks

A text can be handed to a scan in chunks. Each chunk is then scanned as a text of its own, from its
first position on, and only the state is carried over. Nothing is seen of the chunks to come, so a
step that looks ahead may be decided differently at the end of a chunk.

The spacing scan looks ahead for doubled marks only, and reading each mark by itself comes to the
same; so it can be cut anywhere. The scan for comments can be cut after every line feed, because no
step looks past one.
-/

namespace SqlPrep

section Chunks

variable {σ φ : Type}

/-- Scan chunks one after the other, each as a text of its own in the state that the chunks before
it have led to. The result is all that is put out, and the state after the last chunk. -/
def scanChunks (stride : σ → Char → List Char → Stride σ) (fault? : σ → Option φ) (st : σ) :
    List (List Char) → Except φ (List Char × σ)
  | [] => .ok ([], st)
  | chunk :: chunks => do
    let scanned ← scanLoop stride fault? chunk 0 st
    let (output, last) ← scanChunks stride fault? scanned.state chunks
    return (scanned.output ++ output, last)

/-- If every chunk can be cut off from the text behind it, then scanning in chunks puts out what
scanning the whole text does, and ends in the same state. -/
theorem scanChunks_eq_ok {stride : σ → Char → List Char → Stride σ} {fault? : σ → Option φ}
    (output : σ → List Char → List Char) (final : σ → List Char → σ)
    (Cut : List Char → List Char → Prop)
    (hscan : ∀ st chunk, fault? st = none →
      scanLoop stride fault? chunk 0 st = .ok ⟨chunk.length, output st chunk, final st chunk⟩)
    (hvalid : ∀ st chunk, fault? st = none → fault? (final st chunk) = none)
    (hnil : ∀ st, output st [] = [] ∧ final st [] = st)
    (hcut : ∀ st a b, fault? st = none → Cut a b →
      output st (a ++ b) = output st a ++ output (final st a) b ∧
        final st (a ++ b) = final (final st a) b)
    {chunks : List (List Char)}
    (hchunks : ∀ front chunk back, chunks = front ++ chunk :: back → Cut chunk back.flatten)
    {st : σ} (hst : fault? st = none) :
    scanChunks stride fault? st chunks =
      .ok (output st chunks.flatten, final st chunks.flatten) := by
  induction chunks generalizing st with
  | nil => rw [scanChunks, List.flatten_nil, (hnil st).1, (hnil st).2]
  | cons chunk chunks ih =>
    have hrest : ∀ front next back, chunks = front ++ next :: back → Cut next back.flatten :=
      fun front next back h => hchunks (chunk :: front) next back (by rw [h, List.cons_append])
    obtain ⟨houtput, hfinal⟩ := hcut st chunk chunks.flatten hst (hchunks [] chunk chunks rfl)
    rw [List.flatten_cons, houtput, hfinal, scanChunks, hscan st chunk hst]
    change (scanChunks stride fault? (final st chunk) chunks >>= _) = _
    rw [ih hrest (hvalid st chunk hst)]
    rfl

/-- The characters of chunks in a row are those of the text that they make up. -/
theorem flatten_toList (chunks : List String) :
    (chunks.map String.toList).flatten = (String.join chunks).toList := by
  rw [String.toList_join, List.flatMap_def]

end Chunks

namespace Spacing

/-- The spacing scan without looking ahead: it takes one character at a time, and every mark outside
the other kind of quote opens or closes its own kind. -/
def toggleStride (st : ScanState) (c : Char) (_ : List Char) : Stride ScanState :=
  ⟨0, st.output c, st.next c⟩

/-- Opening or closing a kind of quote keeps the two kinds apart. -/
theorem fault?_next {st : ScanState} (hst : st.fault? = none) (c : Char) :
    (st.next c).fault? = none := by
  rw [fault?_eq_none_iff] at hst ⊢
  unfold ScanState.next
  split
  · next hmark => simp [show st.doubleQuote = false by simpa using hmark.2]
  · split
    · next hmark => simp [show st.singleQuote = false by simpa using hmark.2]
    · exact hst

/-- Reading a text one character at a time keeps the two kinds of quote apart. -/
theorem fault?_afterText {st : ScanState} (hst : st.fault? = none) (text : List Char) :
    (st.afterText text).fault? = none := by
  induction text generalizing st with
  | nil => exact hst
  | cons c rest ih => exact ih (fault?_next hst c)

/-- The scan that looks ahead comes to what reading one character at a time does. -/
theorem scanLoop_stride {st : ScanState} (hst : st.fault? = none) (text : List Char) :
    scanLoop stride ScanState.fault? text 0 st =
      .ok ⟨text.length, written st text, st.afterText text⟩ := by
  rw [scanLoop_eq_moves hst, (moves_eq_written st text).1, (moves_eq_written st text).2]

/-- The scan that does not look ahead comes to what reading one character at a time does. -/
theorem scanLoop_toggleStride {st : ScanState} (hst : st.fault? = none) (text : List Char) :
    scanLoop toggleStride ScanState.fault? text 0 st =
      .ok ⟨text.length, written st text, st.afterText text⟩ :=
  scanLoop_eq_ok toggleStride ScanState.fault? written ScanState.afterText
    (fun _ c _ hst => fault?_next hst c) (fun _ _ _ _ => Nat.zero_le _) (fun _ => ⟨rfl, rfl⟩)
    (fun _ _ _ => ⟨rfl, rfl⟩) text 0 (Nat.zero_le _) st hst

/-- From a state that breaks no rule, the spacing scan of any chunks comes to what the scan of the
whole text does. -/
theorem scanChunks_stride {st : ScanState} (hst : st.fault? = none) (chunks : List (List Char)) :
    scanChunks stride ScanState.fault? st chunks =
      .ok (written st chunks.flatten, st.afterText chunks.flatten) :=
  scanChunks_eq_ok written ScanState.afterText (fun _ _ => True)
    (fun _ chunk hst => scanLoop_stride hst chunk) (fun _ chunk hst => fault?_afterText hst chunk)
    (fun _ => ⟨rfl, rfl⟩) (fun st a b _ _ => ⟨written_append st a b, afterText_append st a b⟩)
    (fun _ _ _ _ => trivial) hst

/-- The spacing scan can be cut anywhere: chunk by chunk it puts out the whole text with its blank
runs folded, and ends in the state that the scan of the whole text ends in. So does the scan that
does not look ahead and opens or closes a quote at every mark. -/
theorem scanChunks_eq_normalize (chunks : List String) :
    ∃ last,
      scanChunks stride ScanState.fault? {} (chunks.map String.toList) =
        .ok ((normalize (String.join chunks)).toList, last) ∧
      scanLoop stride ScanState.fault? (String.join chunks).toList 0 {} =
        .ok ⟨(String.join chunks).length, (normalize (String.join chunks)).toList, last⟩ ∧
      scanLoop toggleStride ScanState.fault? (String.join chunks).toList 0 {} =
        .ok ⟨(String.join chunks).length, (normalize (String.join chunks)).toList, last⟩ := by
  refine ⟨ScanState.afterText {} (String.join chunks).toList, ?_, ?_, ?_⟩
  · rw [scanChunks_stride rfl, flatten_toList, toList_normalize]
  · rw [scanLoop_stride rfl, String.length_toList, toList_normalize]
  · rw [scanLoop_toggleStride rfl, String.length_toList, toList_normalize]

/-- A doubled mark and a blank run that are cut in two. -/
example : (scanChunks stride ScanState.fault? {}
    ["'a'".toList, "' b' ".toList, "\t c".toList]).toOption = some ("'a'' b' c".toList, {}) := by
  decide +kernel

end Spacing

namespace Comment

/-- From a state that breaks no rule, the scan for comments of chunks that are separated from the
text behind them comes to what the scan of the whole text does. -/
theorem scanChunks_stride (strategy : Strategy) {st : ScanState} (hst : st.fault? = none)
    {chunks : List (List Char)}
    (hchunks : ∀ front chunk back, chunks = front ++ chunk :: back →
      Separated strategy chunk back.flatten) :
    scanChunks (stride strategy) ScanState.fault? st chunks =
      .ok (emitted (moves strategy st chunks.flatten),
        endState st (moves strategy st chunks.flatten)) :=
  scanChunks_eq_ok (fun st text => emitted (moves strategy st text))
    (fun st text => endState st (moves strategy st text)) (Separated strategy)
    (fun _ chunk hst => scanLoop_eq_moves strategy hst chunk)
    (fun _ chunk hst => fault?_endState hst chunk)
    (fun st => by simp only [moves_nil]; exact ⟨rfl, rfl⟩)
    (fun st a b hst hcut => by
      simp only [moves_append hst hcut]
      exact ⟨emitted_append _ _, endState_append st _ _⟩)
    hchunks hst

/-- In a row of lines with a last text behind them, each can be cut off from what follows it. -/
theorem separated_of_lines (strategy : Strategy) {lines : List (List Char)}
    (hlines : ∀ line ∈ lines, line.getLast? = some '\n') (last : List Char)
    (front : List (List Char)) (chunk : List Char) (back : List (List Char))
    (h : lines ++ [last] = front ++ chunk :: back) : Separated strategy chunk back.flatten := by
  rcases List.eq_nil_or_concat back with rfl | ⟨back, last', rfl⟩
  · exact separated_nil strategy chunk
  · refine separated_of_endsLine strategy (hlines chunk ?_) _
    rw [List.concat_eq_append, ← List.cons_append, ← List.append_assoc] at h
    rw [(List.append_inj' h rfl).1]
    simp

/-- The scan for comments can be cut after every line feed, whatever is open there: line by line it
puts out the whole text without its comments, and ends in the state that the scan of the whole text
ends in. So the result for a text that ends in a line feed stands at the start of the result for
every text that begins with it. -/
theorem scanChunks_eq_removeComments (strategy : Strategy) :
    (∀ (lines : List String) (last : String),
      (∀ line ∈ lines, line.toList.getLast? = some '\n') →
      ∃ state,
        scanChunks (stride strategy) ScanState.fault? {} ((lines ++ [last]).map String.toList) =
          .ok ((removeComments strategy (String.join (lines ++ [last]))).toList, state) ∧
        scanLoop (stride strategy) ScanState.fault? (String.join (lines ++ [last])).toList 0 {} =
          .ok ⟨(String.join (lines ++ [last])).length,
            (removeComments strategy (String.join (lines ++ [last]))).toList, state⟩) ∧
    ∀ a b : String, a.toList.getLast? = some '\n' →
      (removeComments strategy a).toList <+: (removeComments strategy (a ++ b)).toList := by
  constructor
  · intro lines last hlines
    have hends : ∀ line ∈ lines.map String.toList, line.getLast? = some '\n' := by
      simpa using hlines
    refine ⟨endState {} (moves strategy {} (String.join (lines ++ [last])).toList), ?_, ?_⟩
    · have hchunks := scanChunks_stride strategy (show ({} : ScanState).fault? = none from rfl)
        (separated_of_lines strategy hends last.toList)
      rwa [show lines.map String.toList ++ [last.toList] = (lines ++ [last]).map String.toList by
        simp, flatten_toList, ← toList_removeComments] at hchunks
    · rw [scanLoop_eq_moves strategy rfl, String.length_toList, toList_removeComments]
  · intro a b ha
    rw [toList_removeComments, toList_removeComments, String.toList_append,
      moves_append rfl (separated_of_endsLine strategy ha b.toList), emitted_append]
    exact List.prefix_append _ _

/-- An escaped line feed in quotes, one in a dollar quote behind a dollar sign, and one in a block
comment behind a star. -/
theorem scanChunks_eq_removeComments_open :
    (∀ line ∈ ["'\\\n", "'$a$\n", "$a$ /* *\n"], line.toList.getLast? = some '\n') ∧
    (∃ state, scanChunks (stride .all) ScanState.fault? {}
        ["'\\\n".toList, "'$a$\n".toList, "$a$ /* *\n".toList, "/ */-".toList] =
      .ok ("'\\\n'$a$\n$a$ -".toList, state)) ∧
    (removeComments .all "'\\\n").toList <+: (removeComments .all ("'\\\n" ++ "--'")).toList := by
  have hlines : ∀ line ∈ ["'\\\n", "'$a$\n", "$a$ /* *\n"], line.toList.getLast? = some '\n' := by
    decide +kernel
  obtain ⟨hchunks, hprefix⟩ := scanChunks_eq_removeComments .all
  obtain ⟨state, hscan, -⟩ := hchunks _ "/ */-" hlines
  refine ⟨hlines, ⟨state, hscan.trans ?_⟩, hprefix _ "--'" (by decide +kernel)⟩
  rw [show removeComments .all (String.join (["'\\\n", "'$a$\n", "$a$ /* *\n"] ++ ["/ */-"])) =
    "'\\\n'$a$\n$a$ -" by decide +kernel]

end Comment
end SqlPrep
