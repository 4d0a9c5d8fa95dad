/-!
# Scans by position

Both scans read a text by position: at each position they take some characters, put something out
and go on in another state, and the state is checked after every step. `scanLoop` is that loop; it
stops at the first state that breaks a rule.

A scan that keeps its rules and never takes more characters than there are runs to the end of the
text, and puts out what the recursion over the rest of the text puts out.
-/

namespace SqlPrep

/-- What a scan does at one character: the number of further characters that it takes, what it puts
out, and the state after it. -/
structure Stride (σ : Type) where
  extra : Nat
  output : List Char
  after : σ

/-- What a scan has done when it ends: the position it stands at, all that it has put out, and the
state that it ends in. -/
structure ScanEnd (σ : Type) where
  index : Nat
  output : List Char
  state : σ

/-- Put characters in front of the output. -/
def ScanEnd.putBefore {σ : Type} (front : List Char) (e : ScanEnd σ) : ScanEnd σ :=
  { e with output := front ++ e.output }

variable {σ φ : Type}

/-- The stride of a scan at a position of a text. -/
def strideAt (stride : σ → Char → List Char → Stride σ) (text : List Char) (index : Nat)
    (h : index < text.length) (st : σ) : Stride σ :=
  stride st text[index] (text.drop (index + 1))

/-- The position after a stride from a position. -/
def Stride.next (s : Stride σ) (index : Nat) : Nat :=
  index + 1 + s.extra

/-- Scan a text from a position on, with a check of every state that a step leads to. -/
def scanLoop (stride : σ → Char → List Char → Stride σ) (fault? : σ → Option φ)
    (text : List Char) (index : Nat) (st : σ) : Except φ (ScanEnd σ) :=
  if h : index < text.length then
    let s := strideAt stride text index h st
    match fault? s.after with
    | some fault => .error fault
    | none => (scanLoop stride fault? text (s.next index) s.after).map (ScanEnd.putBefore s.output)
  else .ok ⟨index, [], st⟩
termination_by text.length - index
decreasing_by simp only [Stride.next]; omega

/-- The positions and states that a scan of a text reaches. -/
inductive Reached (stride : σ → Char → List Char → Stride σ) (text : List Char) (first : σ) :
    Nat → σ → Prop
  | start : Reached stride text first 0 first
  | turn {index : Nat} {st : σ} (h : index < text.length) : Reached stride text first index st →
      Reached stride text first ((strideAt stride text index h st).next index)
        (strideAt stride text index h st).after

/-- A scan that keeps its rules and stays inside the text runs to the end of the text. What it puts
out and the state that it ends in are those of any recursion over the rest of the text that makes
the same strides. -/
theorem scanLoop_eq_ok (stride : σ → Char → List Char → Stride σ) (fault? : σ → Option φ)
    (output : σ → List Char → List Char) (final : σ → List Char → σ)
    (hfault : ∀ st c rest, fault? st = none → fault? (stride st c rest).after = none)
    (hextra : ∀ st c rest, fault? st = none → (stride st c rest).extra ≤ rest.length)
    (hnil : ∀ st, output st [] = [] ∧ final st [] = st)
    (hcons : ∀ st c rest, output st (c :: rest) = (stride st c rest).output ++
        output (stride st c rest).after (rest.drop (stride st c rest).extra) ∧
      final st (c :: rest) = final (stride st c rest).after (rest.drop (stride st c rest).extra))
    (text : List Char) (index : Nat) (hindex : index ≤ text.length) (st : σ)
    (hst : fault? st = none) :
    scanLoop stride fault? text index st =
      .ok ⟨text.length, output st (text.drop index), final st (text.drop index)⟩ := by
  fun_induction scanLoop stride fault? text index st with
  | case1 index st h s fault heq =>
    have hnone : fault? s.after = none := hfault st text[index] (text.drop (index + 1)) hst
    rw [hnone] at heq
    cases heq
  | case2 index st h s heq ih =>
    have hnext : s.next index ≤ text.length := by
      have := hextra st text[index] (text.drop (index + 1)) hst
      simp only [List.length_drop] at this
      simp only [Stride.next, s, strideAt]
      omega
    have hleft : (text.drop (index + 1)).drop s.extra = text.drop (s.next index) := by
      rw [List.drop_drop, Stride.next]
    rw [ih hnext heq, List.drop_eq_getElem_cons h, (hcons _ _ _).1, (hcons _ _ _).2]
    simp only [Except.map, ScanEnd.putBefore, ← hleft]
    rfl
  | case3 index st h =>
    have hend : index = text.length := by omega
    rw [hend, List.drop_length, (hnil st).1, (hnil st).2]

end SqlPrep
