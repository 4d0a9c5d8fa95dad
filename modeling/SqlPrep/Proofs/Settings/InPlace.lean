import SqlPrep.Proofs.Settings.Overlay
import SqlPrep.Settings.InPlace

/-!
# Overlaying in place leaves everything as it was

Laying one object over a copy of another ends in an object that holds the overlay of their entries,
and every object that was there before still has its slots. No two objects need to be apart for
this: one object may stand in several others, and the two may be one.

While entries are assigned in it, the copy changes, so nothing that stands in it may be read through
it. This is said by reading objects with some places hidden.
-/

namespace SqlPrep.Heap

/-! ## Objects that stay as they were -/

/-- Every object outside some places still has its slots. -/
def Keeps (changed : List Nat) (h h' : Heap) : Prop :=
  ∀ place slots, place ∉ changed → h[place]? = some slots → h'[place]? = some slots

/-- A heap keeps its own objects. -/
theorem Keeps.refl (changed : List Nat) (h : Heap) : Keeps changed h h :=
  fun _ _ _ hplace => hplace

/-- What is kept twice is kept. -/
theorem Keeps.trans {changed : List Nat} {h h' h'' : Heap} (hfirst : Keeps changed h h')
    (hnext : Keeps changed h' h'') : Keeps changed h h'' :=
  fun place slots hout hplace => hnext place slots hout (hfirst place slots hout hplace)

/-- What keeps all objects keeps those outside some places. -/
theorem Keeps.outside {h h' : Heap} (hkeeps : Keeps [] h h') (changed : List Nat) :
    Keeps changed h h' :=
  fun place slots _ hplace => hkeeps place slots List.not_mem_nil hplace

/-- A new object changes no other. -/
theorem keeps_append (h new : Heap) : Keeps [] h (h ++ new) := by
  intro place slots _ hplace
  rw [List.getElem?_append_left (List.getElem?_eq_some_iff.mp hplace).1, hplace]

/-- Changing an object changes no other. -/
theorem keeps_modify {changed : List Nat} {place : Nat} (hplace : place ∈ changed) (h : Heap)
    (f : Slots → Slots) : Keeps changed h (h.modify place f) := by
  intro other slots hout hother
  have hne : place ≠ other := fun heq => hout (heq ▸ hplace)
  rw [List.getElem?_modify_ne f h hne, hother]

/-- Kept objects keep their places. -/
theorem Keeps.length_le {h h' : Heap} (hkeeps : Keeps [] h h') : h.length ≤ h'.length := by
  refine Nat.le_of_not_lt fun hlt => ?_
  have hlast : h[h'.length]? = some h[h'.length] := List.getElem?_eq_getElem hlt
  have hnone : h'[h'.length]? = none := List.getElem?_eq_none (Nat.le_refl _)
  rw [hkeeps _ _ List.not_mem_nil hlast] at hnone
  cases hnone

/-! ## Reading with some places hidden -/

/-- The slots of the object at a place, unless the place is hidden. -/
def seen (h : Heap) (hidden : List Nat) (place : Nat) : Option Slots :=
  if place ∈ hidden then none else h[place]?

/-- What is seen is not hidden, and stands in the heap. -/
theorem getElem?_of_seen {h : Heap} {hidden : List Nat} {place : Nat} {slots : Slots}
    (hseen : h.seen hidden place = some slots) : place ∉ hidden ∧ h[place]? = some slots := by
  unfold seen at hseen
  split at hseen
  · cases hseen
  · next hout => exact ⟨hout, hseen⟩

/-- All that is seen one way is seen another way too. -/
def Within (look look' : Nat → Option Slots) : Prop :=
  ∀ place slots, look place = some slots → look' place = some slots

/-- What is seen with some places hidden is seen in a heap that keeps all other objects, with no
more of the old places hidden. -/
theorem Keeps.within {h h' : Heap} {hidden hidden' : List Nat} (hkeeps : Keeps hidden' h h')
    (hsub : ∀ place ∈ hidden', place < h.length → place ∈ hidden) :
    Within (h.seen hidden) (h'.seen hidden') := by
  intro place slots hseen
  obtain ⟨hout, hplace⟩ := getElem?_of_seen hseen
  have hout' : place ∉ hidden' := fun hin =>
    hout (hsub place hin (List.getElem?_eq_some_iff.mp hplace).1)
  rw [seen, if_neg hout', hkeeps place slots hout' hplace]

/-- What is seen is seen in a heap that keeps all objects. -/
theorem Keeps.within_self {h h' : Heap} (hkeeps : Keeps [] h h') (hidden : List Nat) :
    Within (h.seen hidden) (h'.seen hidden) :=
  (hkeeps.outside hidden).within fun _ hin _ => hin

/-- Slots stand for entries when each slot stands for a value. -/
theorem readSlots_cons {readObject : Nat → Option Entries} {key : Value} {slot : Slot}
    {rest : Slots} {entries : Entries} :
    readSlots readObject ((key, slot) :: rest) = some entries ↔
      ∃ v others, readSlot readObject slot = some v ∧ readSlots readObject rest = some others ∧
        entries = (key, v) :: others := by
  simp only [readSlots, Option.bind_eq_bind, Option.bind_eq_some_iff, Option.pure_def,
    Option.some.injEq, @eq_comm _ entries, exists_and_left]

/-- A slot stands for the same where objects that could be read are read the same. -/
theorem readSlot_of_le {f g : Nat → Option Entries}
    (hle : ∀ place entries, f place = some entries → g place = some entries) {slot : Slot}
    {v : Value} (hslot : readSlot f slot = some v) : readSlot g slot = some v := by
  cases slot with
  | plain w => cases w <;> exact hslot
  | object place =>
    obtain ⟨entries, hplace, rfl⟩ := Option.map_eq_some_iff.mp hslot
    exact Option.map_eq_some_iff.mpr ⟨entries, hle place entries hplace, rfl⟩

/-- Slots stand for the same where objects that could be read are read the same. -/
theorem readSlots_of_le {f g : Nat → Option Entries}
    (hle : ∀ place entries, f place = some entries → g place = some entries) {slots : Slots}
    {entries : Entries} (hslots : readSlots f slots = some entries) :
    readSlots g slots = some entries := by
  induction slots generalizing entries with
  | nil => exact hslots
  | cons entry rest ih =>
    obtain ⟨v, others, hv, hothers, rfl⟩ := readSlots_cons.mp hslots
    exact readSlots_cons.mpr ⟨v, others, readSlot_of_le hle hv, ih hothers, rfl⟩

/-- Where more is seen, what could be read is read the same. -/
theorem Within.readFrom {look look' : Nat → Option Slots} (hwithin : Within look look')
    {depth place : Nat} {entries : Entries} (hread : readFrom look depth place = some entries) :
    readFrom look' depth place = some entries := by
  induction depth generalizing place entries with
  | zero => cases hread
  | succ depth ih =>
    obtain ⟨slots, hslots, hentries⟩ := Option.bind_eq_some_iff.mp hread
    exact Option.bind_eq_some_iff.mpr
      ⟨slots, hwithin place slots hslots, readSlots_of_le (fun _ _ => ih) hentries⟩

/-- Where more is seen, a slot that could be read stands for the same. -/
theorem Within.readSlot {look look' : Nat → Option Slots} (hwithin : Within look look')
    {depth : Nat} {slot : Slot} {v : Value}
    (hslot : readSlot (Heap.readFrom look depth) slot = some v) :
    Heap.readSlot (Heap.readFrom look' depth) slot = some v :=
  readSlot_of_le (fun _ _ => hwithin.readFrom) hslot

/-- Where more is seen, slots that could be read stand for the same. -/
theorem Within.readSlots {look look' : Nat → Option Slots} (hwithin : Within look look')
    {depth : Nat} {slots : Slots} {entries : Entries}
    (hslots : readSlots (Heap.readFrom look depth) slots = some entries) :
    Heap.readSlots (Heap.readFrom look' depth) slots = some entries :=
  readSlots_of_le (fun _ _ => hwithin.readFrom) hslots

/-! ## Copies -/

/-- Objects up to a depth are copied: the copy holds the same, and all objects stay as they were. -/
def Copies (copyObject : Heap → Nat → Option (Heap × Nat)) (depth : Nat) : Prop :=
  ∀ (h : Heap) (hidden : List Nat) (place : Nat) (entries : Entries),
    (∀ p ∈ hidden, p < h.length) → readFrom (h.seen hidden) depth place = some entries →
    ∃ h' copied, copyObject h place = some (h', copied) ∧ Keeps [] h h' ∧
      readFrom (h'.seen hidden) depth copied = some entries

/-- Where objects are copied, slots are. -/
theorem Copies.slot {copyObject : Heap → Nat → Option (Heap × Nat)} {depth : Nat}
    (hcopy : Copies copyObject depth) {h : Heap} {hidden : List Nat}
    (hhidden : ∀ p ∈ hidden, p < h.length) {slot : Slot} {v : Value}
    (hslot : readSlot (readFrom (h.seen hidden) depth) slot = some v) :
    ∃ h' copied, copySlot copyObject h slot = some (h', copied) ∧ Keeps [] h h' ∧
      readSlot (readFrom (h'.seen hidden) depth) copied = some v := by
  cases slot with
  | plain w => exact ⟨h, .plain w, rfl, Keeps.refl [] h, hslot⟩
  | object place =>
    obtain ⟨entries, hread, rfl⟩ := Option.map_eq_some_iff.mp hslot
    obtain ⟨h', copied, heq, hkeeps, hread'⟩ := hcopy h hidden place entries hhidden hread
    refine ⟨h', .object copied, ?_, hkeeps, ?_⟩
    · rw [copySlot, heq, Option.map_some]
    · rw [readSlot, hread', Option.map_some]

/-- Where objects are copied, rows of slots are, one after the other. -/
theorem Copies.slots {copyObject : Heap → Nat → Option (Heap × Nat)} {depth : Nat}
    (hcopy : Copies copyObject depth) {h : Heap} {hidden : List Nat}
    (hhidden : ∀ p ∈ hidden, p < h.length) {slots : Slots} {entries : Entries}
    (hslots : readSlots (readFrom (h.seen hidden) depth) slots = some entries) :
    ∃ h' copied, copySlots copyObject h slots = some (h', copied) ∧ Keeps [] h h' ∧
      readSlots (readFrom (h'.seen hidden) depth) copied = some entries := by
  induction slots generalizing h entries with
  | nil => exact ⟨h, [], rfl, Keeps.refl [] h, hslots⟩
  | cons entry rest ih =>
    obtain ⟨key, slot⟩ := entry
    obtain ⟨v, others, hv, hothers, rfl⟩ := readSlots_cons.mp hslots
    obtain ⟨h₁, new, hslot, hkeeps, hnew⟩ := hcopy.slot hhidden hv
    have hhidden₁ : ∀ p ∈ hidden, p < h₁.length := fun p hp =>
      Nat.lt_of_lt_of_le (hhidden p hp) hkeeps.length_le
    obtain ⟨h₂, copied, hrest, hkeeps₂, hcopied⟩ :=
      ih hhidden₁ ((hkeeps.within_self hidden).readSlots hothers)
    refine ⟨h₂, (key, new) :: copied, ?_, hkeeps.trans hkeeps₂, ?_⟩
    · simp only [copySlots, hslot, hrest, Option.bind_eq_bind, Option.bind_some, Option.pure_def]
    · have hnew₂ := (hkeeps₂.within_self hidden).readSlot hnew
      exact readSlots_cons.mpr ⟨v, others, hnew₂, hcopied, rfl⟩

/-- A copy of an object stands at a new place, and what stands in it is read without that place. -/
theorem copy_succ {depth : Nat} (hcopy : Copies (copy depth) depth) {h : Heap} {hidden : List Nat}
    (hhidden : ∀ p ∈ hidden, p < h.length) {place : Nat} {entries : Entries}
    (hread : readFrom (h.seen hidden) (depth + 1) place = some entries) :
    ∃ h' copied slots, copy (depth + 1) h place = some (h', copied) ∧ Keeps [] h h' ∧
      h.length ≤ copied ∧ h'[copied]? = some slots ∧
      readSlots (readFrom (h'.seen (copied :: hidden)) depth) slots = some entries := by
  obtain ⟨slots, hseen, hslots⟩ := Option.bind_eq_some_iff.mp hread
  have hplace := (getElem?_of_seen hseen).2
  obtain ⟨h₁, copied, hcopied, hkeeps, hsame⟩ := hcopy.slots hhidden hslots
  have hnew : Within (h₁.seen hidden) ((h₁ ++ [copied]).seen (h₁.length :: hidden)) :=
    ((keeps_append h₁ [copied]).outside _).within fun p hp hlt =>
      (List.mem_cons.mp hp).resolve_left (Nat.ne_of_lt hlt)
  refine ⟨h₁ ++ [copied], h₁.length, copied, ?_, hkeeps.trans (keeps_append h₁ _),
    hkeeps.length_le, List.getElem?_concat_length, hnew.readSlots hsame⟩
  simp only [copy, hplace, hcopied, Option.bind_eq_bind, Option.bind_some, Option.pure_def]

/-- An object at a new place is read with the old places hidden as it is with its own hidden too. -/
theorem readFrom_of_slots {h : Heap} {hidden : List Nat} {depth place : Nat} {slots : Slots}
    {entries : Entries} (hplace : h[place]? = some slots) (hout : place ∉ hidden)
    (hslots : readSlots (readFrom (h.seen (place :: hidden)) depth) slots = some entries) :
    readFrom (h.seen hidden) (depth + 1) place = some entries := by
  have hseen : h.seen hidden place = some slots := by rw [seen, if_neg hout, hplace]
  have hmore : Within (h.seen (place :: hidden)) (h.seen hidden) :=
    (Keeps.refl hidden h).within fun p hp _ => List.mem_cons_of_mem place hp
  exact Option.bind_eq_some_iff.mpr ⟨slots, hseen, hmore.readSlots hslots⟩

/-- Objects of every depth are copied. -/
theorem copies_copy (depth : Nat) : Copies (copy depth) depth := by
  induction depth with
  | zero => intro h hidden place entries _ hread; cases hread
  | succ depth ih =>
    intro h hidden place entries hhidden hread
    obtain ⟨h', copied, slots, heq, hkeeps, hnew, hplace, hslots⟩ := copy_succ ih hhidden hread
    have hout : copied ∉ hidden := fun hin => absurd (hhidden copied hin) (Nat.not_lt.mpr hnew)
    exact ⟨h', copied, heq, hkeeps, readFrom_of_slots hplace hout hslots⟩

/-! ## Overlays -/

/-- A key is found among slots when it is found among the entries that they stand for. -/
theorem map_readSlot_get? {f : Nat → Option Entries} {slots : Slots} {entries : Entries}
    (hslots : readSlots f slots = some entries) (key : Value) :
    (slots.get? key).map (readSlot f) = (Entries.get? entries key).map some := by
  induction slots generalizing entries with
  | nil =>
    obtain rfl := Option.some.inj hslots
    rfl
  | cons entry rest ih =>
    obtain ⟨v, others, hv, hothers, rfl⟩ := readSlots_cons.mp hslots
    rw [Slots.get?, Entries.get?]
    split
    · exact congrArg some hv
    · exact ih hothers

/-- A slot that is found under a key stands for the value that is found there. -/
theorem exists_readSlot_eq {f : Nat → Option Entries} {slot : Slot} {found : Option Value}
    (h : (some slot).map (readSlot f) = found.map some) :
    ∃ v, found = some v ∧ readSlot f slot = some v := by
  obtain ⟨v, rfl, hv⟩ := Option.map_eq_some_iff.mp h.symm
  exact ⟨v, rfl, hv.symm⟩

/-- Assigning a slot assigns the value that it stands for. -/
theorem readSlots_put {f : Nat → Option Entries} {slots : Slots} {entries : Entries}
    (hslots : readSlots f slots = some entries) (key : Value) {slot : Slot} {v : Value}
    (hslot : readSlot f slot = some v) :
    readSlots f (slots.put key slot) = some (Entries.put entries key v) := by
  induction slots generalizing entries with
  | nil =>
    obtain rfl := Option.some.inj hslots
    exact readSlots_cons.mpr ⟨v, [], hslot, rfl, rfl⟩
  | cons entry rest ih =>
    obtain ⟨w, others, hw, hothers, rfl⟩ := readSlots_cons.mp hslots
    rw [Slots.put, Entries.put]
    split
    · exact readSlots_cons.mpr ⟨v, others, hslot, hothers, rfl⟩
    · exact readSlots_cons.mpr ⟨w, _, hw, ih hothers, rfl⟩

/-- A slot that is no object stands for its value, and that is no mapping. -/
theorem readSlot_plain {f : Nat → Option Entries} {v w : Value}
    (hslot : readSlot f (.plain v) = some w) : w = v ∧ ∀ entries, v ≠ .map entries := by
  cases v <;> cases hslot <;> exact ⟨rfl, fun _ => nofun⟩

/-- Objects up to a depth are laid over another: the new object holds the overlay, and all objects
stay as they were. -/
def Lays (lay : Heap → Nat → Nat → Option (Heap × Nat)) (depth : Nat) : Prop :=
  ∀ (h : Heap) (hidden : List Nat) (base top : Nat) (old new : Entries),
    (∀ p ∈ hidden, p < h.length) → readFrom (h.seen hidden) depth base = some old →
    readFrom (h.seen hidden) depth top = some new →
    ∃ h' laid, lay h base top = some (h', laid) ∧ Keeps [] h h' ∧
      readFrom (h'.seen hidden) depth laid = some (Entries.overlay old new)

/-- Where objects are laid over others, a slot is laid over what stands under its key. -/
theorem Lays.slot {lay : Heap → Nat → Nat → Option (Heap × Nat)} {depth : Nat}
    (hlay : Lays lay depth) {h : Heap} {hidden : List Nat} (hhidden : ∀ p ∈ hidden, p < h.length)
    {slot : Slot} {v : Value} (hslot : readSlot (readFrom (h.seen hidden) depth) slot = some v)
    {oldSlot : Option Slot} {old : Option Value}
    (hold : oldSlot.map (readSlot (readFrom (h.seen hidden) depth)) = old.map some) :
    ∃ h' new, laySlot lay h oldSlot slot = some (h', new) ∧ Keeps [] h h' ∧
      readSlot (readFrom (h'.seen hidden) depth) new = some (v.onto old) := by
  have hkept : v.onto old = v → laySlot lay h oldSlot slot = some (h, slot) →
      ∃ h' new, laySlot lay h oldSlot slot = some (h', new) ∧ Keeps [] h h' ∧
        readSlot (readFrom (h'.seen hidden) depth) new = some (v.onto old) := fun hv heq =>
    ⟨h, slot, heq, Keeps.refl [] h, hv.symm ▸ hslot⟩
  cases slot with
  | plain w =>
    obtain ⟨rfl, hne⟩ := readSlot_plain hslot
    exact hkept (Value.onto_eq_self hne old) rfl
  | object top =>
    obtain ⟨new, htop, rfl⟩ := Option.map_eq_some_iff.mp hslot
    rcases oldSlot with _ | (w | base)
    · obtain rfl : old = none := by simpa using hold.symm
      exact hkept (Value.onto_none _) rfl
    · obtain ⟨u, rfl, hu⟩ := exists_readSlot_eq hold
      obtain ⟨rfl, hne⟩ := readSlot_plain hu
      exact hkept (Value.onto_of_ne_map hne _) rfl
    · obtain ⟨u, rfl, hu⟩ := exists_readSlot_eq hold
      obtain ⟨under, hbase, rfl⟩ := Option.map_eq_some_iff.mp hu
      obtain ⟨h', laid, heq, hkeeps, hlaid⟩ := hlay h hidden base top under new hhidden hbase htop
      refine ⟨h', .object laid, ?_, hkeeps, ?_⟩
      · rw [laySlot, heq, Option.map_some]
      · rw [readSlot, hlaid, Option.map_some, Value.onto]

/-- Slots are assigned one after the other in an object that none of them is read through. Only
that object changes, and it ends with the overlay. -/
theorem Lays.assignAll {lay : Heap → Nat → Nat → Option (Heap × Nat)} {depth : Nat}
    (hlay : Lays lay depth) {h : Heap} {hidden : List Nat} {place : Nat}
    (hhidden : ∀ p ∈ place :: hidden, p < h.length) {here slots : Slots} {old new : Entries}
    (hplace : h[place]? = some here)
    (hhere : readSlots (readFrom (h.seen (place :: hidden)) depth) here = some old)
    (hslots : readSlots (readFrom (h.seen (place :: hidden)) depth) slots = some new) :
    ∃ h' laid, Heap.assignAll lay place h slots = some h' ∧ Keeps [place] h h' ∧
      h'[place]? = some laid ∧
      readSlots (readFrom (h'.seen (place :: hidden)) depth) laid =
        some (Entries.overlay old new) := by
  induction slots generalizing h here old new with
  | nil =>
    obtain rfl := Option.some.inj hslots
    exact ⟨h, here, rfl, Keeps.refl _ h, hplace, hhere⟩
  | cons entry rest ih =>
    obtain ⟨key, slot⟩ := entry
    obtain ⟨v, others, hv, hothers, rfl⟩ := readSlots_cons.mp hslots
    obtain ⟨h₁, laidSlot, heq, hkeeps, hnew⟩ := hlay.slot hhidden hv (map_readSlot_get? hhere key)
    let h₂ : Heap := h₁.modify place (·.put key laidSlot)
    have hplace₁ : h₁[place]? = some here := hkeeps place here List.not_mem_nil hplace
    have hplace₂ : h₂[place]? = some (here.put key laidSlot) := by
      rw [List.getElem?_modify_eq, hplace₁]
      rfl
    have hwithin₁ := hkeeps.within_self (place :: hidden)
    have hwithin₂ : Within (h₁.seen (place :: hidden)) (h₂.seen (place :: hidden)) :=
      (keeps_modify List.mem_cons_self h₁ _).within fun _ hp _ => hp
    have hlength : h₂.length = h₁.length := List.length_modify _ _ _
    have hhidden₂ : ∀ p ∈ place :: hidden, p < h₂.length := fun p hp =>
      hlength ▸ Nat.lt_of_lt_of_le (hhidden p hp) hkeeps.length_le
    have hhere₂ := hwithin₂.readSlots (readSlots_put (hwithin₁.readSlots hhere) key hnew)
    obtain ⟨h', laid, hrest, hkeeps', hlaid, hresult⟩ :=
      ih hhidden₂ hplace₂ hhere₂ (hwithin₂.readSlots (hwithin₁.readSlots hothers))
    refine ⟨h', laid, ?_, ?_, hlaid, ?_⟩
    · simp only [Heap.assignAll, hplace, heq, Option.bind_eq_bind, Option.bind_some]
      exact hrest
    · have hstep : Keeps [place] h h₂ :=
        (hkeeps.outside _).trans (keeps_modify List.mem_cons_self h₁ _)
      exact hstep.trans hkeeps'
    · rw [hresult, Entries.overlay]

/-- Objects of every depth are laid over others. -/
theorem lays_overlay (depth : Nat) : Lays (overlay depth) depth := by
  induction depth with
  | zero => intro h hidden base top old new _ hbase; cases hbase
  | succ depth ih =>
    intro h hidden base top old new hhidden hbase htop
    obtain ⟨h₁, place, here, hcopy, hkeeps, hfresh, hplace, hhere⟩ :=
      copy_succ (copies_copy depth) hhidden hbase
    obtain ⟨slots, hseen, hslots⟩ := Option.bind_eq_some_iff.mp htop
    have htop₁ := hkeeps top slots List.not_mem_nil (getElem?_of_seen hseen).2
    have hout : place ∉ hidden := fun hin => absurd (hhidden place hin) (Nat.not_lt.mpr hfresh)
    -- The copy is new, so all that is read of the old objects is read with its place hidden.
    have hwithin : Within (h.seen hidden) (h₁.seen (place :: hidden)) :=
      (hkeeps.outside _).within fun p hp hlt =>
        (List.mem_cons.mp hp).resolve_left (Nat.ne_of_lt (Nat.lt_of_lt_of_le hlt hfresh))
    have hhidden₁ : ∀ p ∈ place :: hidden, p < h₁.length :=
      List.forall_mem_cons.mpr ⟨(List.getElem?_eq_some_iff.mp hplace).1,
        fun p hp => Nat.lt_of_lt_of_le (hhidden p hp) hkeeps.length_le⟩
    obtain ⟨h₂, laid, hassign, hkeeps₂, hlaid, hresult⟩ :=
      ih.assignAll hhidden₁ hplace hhere (hwithin.readSlots hslots)
    refine ⟨h₂, place, ?_, ?_, readFrom_of_slots hlaid hout hresult⟩
    · simp only [overlay, hcopy, htop₁, hassign, Option.bind_eq_bind, Option.bind_some,
        Option.pure_def]
    · intro p before _ hp
      have hne : p ≠ place :=
        Nat.ne_of_lt (Nat.lt_of_lt_of_le (List.getElem?_eq_some_iff.mp hp).1 hfresh)
      exact hkeeps₂ p before (fun hin => hne (List.mem_singleton.mp hin))
        (hkeeps p before List.not_mem_nil hp)

/-- Nothing is hidden when no place is. -/
theorem seen_nil (h : Heap) : h.seen [] = (h[·]?) :=
  funext fun _ => if_neg List.not_mem_nil

/-- Objects are laid over others in place: the new object holds the overlay of their entries, and
every object still has its slots. -/
theorem overlay_eq_some {h : Heap} {depth base top : Nat} {old new : Entries}
    (hbase : h.read depth base = some old) (htop : h.read depth top = some new) :
    ∃ h' laid, overlay depth h base top = some (h', laid) ∧
      h'.read depth laid = some (Entries.overlay old new) ∧
      ∀ (place : Nat) (slots : Slots), h[place]? = some slots → h'[place]? = some slots := by
  rw [read, ← seen_nil] at hbase htop
  obtain ⟨h', laid, heq, hkeeps, hlaid⟩ :=
    lays_overlay depth h [] base top old new (fun _ => nofun) hbase htop
  rw [seen_nil] at hlaid
  exact ⟨h', laid, heq, hlaid, fun place slots => hkeeps place slots List.not_mem_nil⟩

/-- What an object holds stays the same when every object keeps its slots. -/
theorem read_of_kept {h h' : Heap}
    (hkept : ∀ (place : Nat) (slots : Slots), h[place]? = some slots → h'[place]? = some slots)
    {depth place : Nat} {entries : Entries} (hread : h.read depth place = some entries) :
    h'.read depth place = some entries :=
  Within.readFrom hkept hread

end SqlPrep.Heap
