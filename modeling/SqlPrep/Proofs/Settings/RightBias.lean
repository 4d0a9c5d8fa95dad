import SqlPrep.Proofs.Settings.InPlace
import SqlPrep.Proofs.Value.Key

/-!
# The overlay wins, at every depth

What a path of keys leads to in an overlay is told by what it leads to in the two mappings: the
value of the one on top, laid over the one below it, or else the value below. The keys keep the
order of the base, and new ones follow in the order of the overlay. From this it follows that an
overlay that has been laid changes nothing when it is laid again.

The mapping on top has to be one: its keys are different, and so are those of the mappings inside
it. Of the base nothing is asked.
-/

namespace SqlPrep

/-! ## One level -/

namespace Entries

/-- In an overlay a key is found under the value on top, laid over the one below, or else under the
one below. -/
theorem get?_overlay {top : Entries} (htop : top.Distinct) (base : Entries) (key : Value) :
    get? (overlay base top) key =
      ((get? top key).map fun v => v.onto (get? base key)).or (get? base key) := by
  induction top generalizing base with
  | nil => rfl
  | cons entry rest ih =>
    obtain ⟨k, v⟩ := entry
    obtain ⟨hfresh, hrest⟩ := List.pairwise_cons.mp htop
    rw [overlay, ih hrest, get?_put, get?]
    by_cases hk : k.sameKey key = true
    · have hlater : get? rest key = none := by
        refine get?_eq_none.mpr fun e he => Bool.eq_false_iff.mpr fun hsame => ?_
        have hboth := Value.sameKey_trans hk (Value.sameKey_symm hsame)
        exact Bool.false_ne_true ((hfresh e he).symm.trans hboth)
      rw [if_pos hk, if_pos hk, hlater, get?_congr hk]
      rfl
    · rw [if_neg hk, if_neg hk]

/-- The keys of an overlay are those of the base, with the new ones behind. -/
theorem keys_overlay {top : Entries} (htop : top.Distinct) (base : Entries) :
    keys (overlay base top) =
      keys base ++ (keys top).filter fun key => (get? base key).isNone := by
  induction top generalizing base with
  | nil => exact (List.append_nil _).symm
  | cons entry rest ih =>
    obtain ⟨k, v⟩ := entry
    obtain ⟨hfresh, hrest⟩ := List.pairwise_cons.mp htop
    have hlater : (keys rest).filter (fun key =>
          (get? (put base k (v.onto (get? base k))) key).isNone) =
        (keys rest).filter fun key => (get? base key).isNone := by
      refine List.filter_congr fun key hkey => ?_
      obtain ⟨e, he, rfl⟩ := List.mem_map.mp hkey
      rw [get?_put, if_neg (Bool.eq_false_iff.mp (hfresh e he))]
    rw [overlay, ih hrest, keys_put, hlater, List.append_assoc]
    congr 1
    change _ = List.filter _ (k :: keys rest)
    rw [List.filter_cons]
    split <;> rfl

/-- An entry of a mapping is found under its key. -/
theorem get?_of_mem {entries : Entries} (h : entries.Distinct) {e : Value × Value}
    (he : e ∈ entries) (hkey : e.1.isHashable = true) : get? entries e.1 = some e.2 := by
  obtain ⟨front, back, rfl⟩ := List.append_of_mem he
  have hfront : get? front e.1 = none := get?_eq_none.mpr fun f hf =>
    (List.pairwise_append.mp h).2.2 f hf e List.mem_cons_self
  exact get?_append_cons hfront (Value.sameKey_self hkey) e.2 back

/-- An overlay all of whose values stand in the base already changes nothing. -/
theorem overlay_of_absorbed {base top : Entries}
    (h : ∀ e ∈ top, get? base e.1 = some (e.2.onto (get? base e.1))) : overlay base top = base := by
  induction top with
  | nil => rfl
  | cons entry rest ih =>
    obtain ⟨hhead, htail⟩ := List.forall_mem_cons.mp h
    rw [overlay, put_of_get? hhead, ih htail]

/-- A mapping laid over none stays as it is. -/
theorem overlay_nil {top : Entries} (htop : top.Distinct) : overlay [] top = top := by
  have hall : others (names []) top = top := List.filter_eq_self.mpr fun e _ => by
    cases h : e.1.text? <;> simp [Value.isNamed, h]
  have hnames : (names []).Nodup := List.nodup_nil
  have h := overlay_named hnames htop
  rwa [hall] at h

/-- Where each value on top changes nothing when it is laid again, neither do all of them. -/
theorem overlay_overlay {top : Entries} (htop : top.Distinct)
    (hhashable : ∀ e ∈ top, e.1.isHashable = true)
    (hvalues : ∀ e ∈ top, ∀ old, e.2.onto (some (e.2.onto old)) = e.2.onto old) (base : Entries) :
    overlay (overlay base top) top = overlay base top := by
  refine overlay_of_absorbed fun e he => ?_
  have hlaid : get? (overlay base top) e.1 = some (e.2.onto (get? base e.1)) := by
    rw [get?_overlay htop, get?_of_mem htop he (hhashable e he)]
    rfl
  rw [hlaid, hvalues e he]

end Entries

/-! ## All levels -/

namespace Value

/-- A value whose mappings, as far as they stand in mappings only, have different keys, all of which
can be keys. -/
inductive Keyed : Value → Prop
  | mapping {entries : Entries} (distinct : entries.Distinct)
      (hashable : ∀ e ∈ entries, e.1.isHashable = true) (inner : ∀ e ∈ entries, e.2.Keyed) :
      Keyed (.map entries)
  | plain {v : Value} (h : ∀ entries, v ≠ .map entries) : Keyed v

/-- The value that a path of keys leads to. -/
def along? (v : Value) : List Value → Option Value
  | [] => some v
  | key :: path =>
    match v with
    | .map entries => (Entries.get? entries key).bind fun w => w.along? path
    | _ => none

/-- A path that takes a step starts at a mapping. -/
theorem along?_cons {v w key : Value} {path : List Value} :
    v.along? (key :: path) = some w ↔
      ∃ entries u, v = .map entries ∧ Entries.get? entries key = some u ∧ u.along? path = some w := by
  cases v <;> simp [along?, Option.bind_eq_some_iff]

/-- What stands in a mapping is keyed as the mapping is. -/
theorem Keyed.get? {entries : Entries} (h : (Value.map entries).Keyed) {key v : Value}
    (hv : Entries.get? entries key = some v) : v.Keyed := by
  cases h with
  | mapping _ _ inner =>
    obtain ⟨k, hmem⟩ := Entries.exists_mem_of_get? hv
    exact inner (k, v) hmem
  | plain h => exact absurd rfl (h entries)

/-- The keys of a keyed mapping are different. -/
theorem Keyed.distinct {entries : Entries} (h : (Value.map entries).Keyed) : entries.Distinct := by
  cases h with
  | mapping distinct _ _ => exact distinct
  | plain h => exact absurd rfl (h entries)

/-- What a path leads to is keyed as the value is. -/
theorem Keyed.along? {v w : Value} (hv : v.Keyed) {path : List Value}
    (h : v.along? path = some w) : w.Keyed := by
  induction path generalizing v with
  | nil => exact Option.some.inj h ▸ hv
  | cons key path ih =>
    obtain ⟨entries, u, rfl, hu, hpath⟩ := along?_cons.mp h
    exact ih (hv.get? hu) hpath

/-- A mapping is laid over another entry by entry, and stays as it is over anything else. -/
theorem map_onto (entries : Entries) (old : Option Value) :
    (∃ base, old = some (.map base) ∧
        (Value.map entries).onto old = .map (Entries.overlay base entries)) ∨
      (∀ base, old ≠ some (.map base)) ∧ (Value.map entries).onto old = .map entries := by
  by_cases hold : ∃ base, old = some (.map base)
  · obtain ⟨base, rfl⟩ := hold
    exact Or.inl ⟨base, rfl, rfl⟩
  · have hne : ∀ base, old ≠ some (.map base) := fun base heq => hold ⟨base, heq⟩
    refine Or.inr ⟨hne, ?_⟩
    cases old with
    | none => exact onto_none _
    | some u => exact onto_of_ne_map (fun base heq => hne base (congrArg some heq)) _

/-- A path of the value on top leads to what it leads to there, laid over what it leads to below. -/
theorem along?_onto {v w : Value} (hv : v.Keyed) {path : List Value} (h : v.along? path = some w)
    (old : Option Value) :
    (v.onto old).along? path = some (w.onto (old.bind fun u => u.along? path)) := by
  induction path generalizing v old with
  | nil =>
    obtain rfl := Option.some.inj h
    cases old <;> rfl
  | cons key path ih =>
    obtain ⟨entries, u, rfl, hu, hpath⟩ := along?_cons.mp h
    rcases map_onto entries old with ⟨base, rfl, honto⟩ | ⟨hne, honto⟩
    · have hlaid : Entries.get? (Entries.overlay base entries) key =
          some (u.onto (Entries.get? base key)) := by
        rw [Entries.get?_overlay hv.distinct, hu]
        rfl
      rw [honto, Value.along?, hlaid, Option.bind_some, ih (hv.get? hu) hpath]
      rfl
    · have hbelow : (old.bind fun u => u.along? (key :: path)) = none := by
        refine Option.eq_none_iff_forall_ne_some.mpr fun w' hw' => ?_
        obtain ⟨u', rfl, hu'⟩ := Option.bind_eq_some_iff.mp hw'
        obtain ⟨base, -, rfl, -⟩ := along?_cons.mp hu'
        exact hne base rfl
      rw [honto, hbelow, onto_none, h]

/-- A path of the base that leaves the mappings on top where one lacks the next key leads to what it
leads to in the base. -/
theorem along?_onto_of_lacking {v old w : Value} (hv : v.Keyed) {front : List Value} {key : Value}
    {back : List Value} {entries : Entries} (hfront : v.along? front = some (.map entries))
    (hlacks : Entries.get? entries key = none) (hold : old.along? (front ++ key :: back) = some w) :
    (v.onto (some old)).along? (front ++ key :: back) = some w := by
  induction front generalizing v old with
  | nil =>
    obtain rfl := Option.some.inj hfront
    obtain ⟨base, u, rfl, hu, hpath⟩ := along?_cons.mp hold
    refine along?_cons.mpr ⟨_, u, rfl, ?_, hpath⟩
    rw [Entries.get?_overlay hv.distinct, hlacks, hu]
    rfl
  | cons k front ih =>
    obtain ⟨entries', u, rfl, hu, hrest⟩ := along?_cons.mp hfront
    obtain ⟨base, u', rfl, hu', hpath⟩ := along?_cons.mp hold
    refine along?_cons.mpr ⟨_, u.onto (some u'), rfl, ?_, ih (hv.get? hu) hrest hpath⟩
    rw [Entries.get?_overlay hv.distinct, hu, hu']
    rfl

/-- A value that has been laid over another changes nothing when it is laid over the result. -/
theorem onto_onto {v : Value} (hv : v.Keyed) (old : Option Value) :
    v.onto (some (v.onto old)) = v.onto old := by
  induction hv generalizing old with
  | plain h => rw [onto_eq_self h, onto_eq_self h]
  | @mapping entries distinct hashable _ ih =>
    have hagain (base : Entries) := Entries.overlay_overlay distinct hashable ih base
    rcases map_onto entries old with ⟨base, rfl, honto⟩ | ⟨-, honto⟩
    · rw [honto, onto, hagain base]
    · have hself := hagain []
      rw [Entries.overlay_nil distinct] at hself
      rw [honto, onto, hself]

/-- Mappings are laid over mappings without a refusal. -/
theorem overlay_map (base top : Entries) :
    (Value.map base).overlay (.map top) = .ok (.map (Entries.overlay base top)) := by
  rw [overlay]
  induction top generalizing base with
  | nil => rfl
  | cons entry rest ih =>
    rw [List.foldlM_cons, Entries.overlay, ← ih]
    rfl

end Value

/-- An overlay of mappings is the one on top at every depth. A path that leads there to a value that
is no mapping leads to that value, and one of the base that leaves the mappings on top leads to what
it leads to in the base. Where both have a mapping, the keys are those of the base in their order and
then the new ones in theirs. Carried out in place, the overlay leaves every object as it was, also
those of the base. Nothing laid over a mapping leaves it as it is, a mapping laid over none stays as
it is, and one that has been laid changes nothing when it is laid again. -/
theorem overlay_right_biased (base top : Entries) (htop : (Value.map top).Keyed) :
    ∃ merged, (Value.map base).overlay (.map top) = .ok (.map merged) ∧
      (∀ path v, (Value.map top).along? path = some v → (∀ entries, v ≠ .map entries) →
        (Value.map merged).along? path = some v) ∧
      (∀ front key back entries v, (Value.map top).along? front = some (.map entries) →
        Entries.get? entries key = none →
        (Value.map base).along? (front ++ key :: back) = some v →
        (Value.map merged).along? (front ++ key :: back) = some v) ∧
      (∀ path old new, (Value.map base).along? path = some (.map old) →
        (Value.map top).along? path = some (.map new) →
        ∃ laid, (Value.map merged).along? path = some (.map laid) ∧
          Entries.keys laid = Entries.keys old ++
            (Entries.keys new).filter fun key => (Entries.get? old key).isNone) ∧
      (∀ (h : Heap) (depth b t : Nat), h.read depth b = some base → h.read depth t = some top →
        ∃ h' m, h.overlay depth b t = some (h', m) ∧ h'.read depth m = some merged ∧
          h'.read depth b = some base ∧
          ∀ (place : Nat) (slots : Slots), h[place]? = some slots → h'[place]? = some slots) ∧
      (Value.map base).overlay (.map []) = .ok (.map base) ∧
      (Value.map []).overlay (.map top) = .ok (.map top) ∧
      (Value.map merged).overlay (.map top) = .ok (.map merged) := by
  have hlaid : (Value.map top).onto (some (.map base)) = .map (Entries.overlay base top) := rfl
  refine ⟨Entries.overlay base top, Value.overlay_map base top, ?_, ?_, ?_, ?_, rfl, ?_, ?_⟩
  · intro path v hpath hv
    rw [← hlaid, Value.along?_onto htop hpath, Value.onto_eq_self hv]
  · intro front key back entries v hfront hlacks hpath
    exact hlaid ▸ Value.along?_onto_of_lacking htop hfront hlacks hpath
  · intro path old new hold hnew
    refine ⟨Entries.overlay old new, ?_, Entries.keys_overlay (htop.along? hnew).distinct old⟩
    rw [← hlaid, Value.along?_onto htop hnew, Option.bind_some, hold]
    rfl
  · intro h depth b t hb ht
    obtain ⟨h', m, heq, hm, hkept⟩ := Heap.overlay_eq_some hb ht
    exact ⟨h', m, heq, hm, Heap.read_of_kept hkept hb, hkept⟩
  · rw [Value.overlay_map, Entries.overlay_nil htop.distinct]
  · have hagain := Value.onto_onto htop (some (.map base))
    rw [hlaid] at hagain
    exact (Value.overlay_map _ top).trans (congrArg Except.ok hagain)

/-- Keys of several kinds that are the same, a value that is no number as a key, mappings over and
under other values, and an object that stands in the base and on top. -/
theorem overlay_right_biased_shared :
    ∃ base top merged : Entries,
      base = [(.int 1, .map [(.str "a", .int 1), (.str "b", .map [])]), (.str "k", .int 5),
        (.str "z", .list [])] ∧
      top = [(.bool true, .map [(.str "b", .map [(.float (.nan 2), .null)]), (.str "d", .int 2)]),
        (.str "k", .map []), (.float (.nan 1), .str "n"), (.float (.nan 2), .int 3)] ∧
      merged = [(.int 1, .map [(.str "a", .int 1), (.str "b", .map [(.float (.nan 2), .null)]),
          (.str "d", .int 2)]), (.str "k", .map []), (.str "z", .list []),
        (.float (.nan 1), .str "n"), (.float (.nan 2), .int 3)] ∧
      (Value.map top).Keyed ∧ (Value.map base).overlay (.map top) = .ok (.map merged) ∧
      ((Value.map top).along? [.int 1, .str "d"] = some (.int 2) ∧
        (Value.map merged).along? [.int 1, .str "d"] = some (.int 2)) ∧
      ((Value.map top).along? [.int 1] =
          some (.map [(.str "b", .map [(.float (.nan 2), .null)]), (.str "d", .int 2)]) ∧
        (Value.map base).along? [.int 1, .str "a"] = some (.int 1) ∧
        (Value.map merged).along? [.int 1, .str "a"] = some (.int 1)) ∧
      (∃ h h' : Heap, ∃ m,
        h = [[(.int 1, .object 1), (.str "k", .plain (.int 5)), (.str "z", .plain (.list []))],
          [(.str "a", .plain (.int 1)), (.str "b", .object 2)], [],
          [(.bool true, .object 4), (.str "k", .object 2), (.float (.nan 1), .plain (.str "n")),
            (.float (.nan 2), .plain (.int 3))],
          [(.str "b", .object 5), (.str "d", .plain (.int 2))],
          [(.float (.nan 2), .plain .null)]] ∧
        h.read 3 0 = some base ∧ h.read 3 3 = some top ∧ h.overlay 3 0 3 = some (h', m) ∧
        h'.read 3 m = some merged ∧ h'.read 3 0 = some base) ∧
      (Value.map merged).overlay (.map top) = .ok (.map merged) := by
  obtain ⟨base, hbase⟩ : ∃ base : Entries, base = [(.int 1, .map [(.str "a", .int 1),
      (.str "b", .map [])]), (.str "k", .int 5), (.str "z", .list [])] := ⟨_, rfl⟩
  obtain ⟨top, htop⟩ : ∃ top : Entries, top = [(.bool true, .map [(.str "b",
      .map [(.float (.nan 2), .null)]), (.str "d", .int 2)]), (.str "k", .map []),
      (.float (.nan 1), .str "n"), (.float (.nan 2), .int 3)] := ⟨_, rfl⟩
  have hdeep : (Value.map [(.float (.nan 2), .null)]).Keyed :=
    .mapping (by decide) (by decide)
      (List.forall_mem_cons.mpr ⟨.plain fun _ => nofun, List.forall_mem_nil _⟩)
  have hinner : (Value.map [(.str "b", .map [(.float (.nan 2), .null)]),
      (.str "d", .int 2)]).Keyed := by
    refine .mapping (by decide) (by decide) ?_
    simp only [List.forall_mem_cons]
    exact ⟨hdeep, .plain fun _ => nofun, List.forall_mem_nil _⟩
  have hkeyed : (Value.map top).Keyed := by
    subst htop
    refine .mapping (by decide) (by decide) ?_
    simp only [List.forall_mem_cons]
    exact ⟨hinner, .mapping (by decide) (by decide) (List.forall_mem_nil _), .plain fun _ => nofun,
      .plain fun _ => nofun, List.forall_mem_nil _⟩
  obtain ⟨merged, hmerged, hleaf, hbelow, -, hplace, -, -, hagain⟩ :=
    overlay_right_biased base top hkeyed
  have hresult : merged = [(.int 1, .map [(.str "a", .int 1),
      (.str "b", .map [(.float (.nan 2), .null)]), (.str "d", .int 2)]), (.str "k", .map []),
      (.str "z", .list []), (.float (.nan 1), .str "n"), (.float (.nan 2), .int 3)] := by
    rw [Value.overlay_map] at hmerged
    subst hbase htop
    exact (Value.map.inj (Except.ok.inj hmerged)).symm
  have hunder : (Value.map top).along? [.int 1] =
      some (.map [(.str "b", .map [(.float (.nan 2), .null)]), (.str "d", .int 2)]) := by
    subst htop
    rfl
  have hone : (Value.map top).along? [.int 1, .str "d"] = some (.int 2) := by
    subst htop
    rfl
  have hkept : (Value.map base).along? [.int 1, .str "a"] = some (.int 1) := by
    subst hbase
    rfl
  obtain ⟨h, hheap⟩ : ∃ h : Heap, h = [[(.int 1, .object 1), (.str "k", .plain (.int 5)),
      (.str "z", .plain (.list []))], [(.str "a", .plain (.int 1)), (.str "b", .object 2)], [],
      [(.bool true, .object 4), (.str "k", .object 2), (.float (.nan 1), .plain (.str "n")),
        (.float (.nan 2), .plain (.int 3))], [(.str "b", .object 5), (.str "d", .plain (.int 2))],
      [(.float (.nan 2), .plain .null)]] := ⟨_, rfl⟩
  have hreadBase : h.read 3 0 = some base := by
    subst hheap hbase
    rfl
  have hreadTop : h.read 3 3 = some top := by
    subst hheap htop
    rfl
  obtain ⟨h', m, hlaid, hreadMerged, hreadAgain, -⟩ := hplace h 3 0 3 hreadBase hreadTop
  exact ⟨base, top, merged, hbase, htop, hresult, hkeyed, hmerged,
    ⟨hone, hleaf _ _ hone fun _ => nofun⟩,
    ⟨hunder, hkept, hbelow [.int 1] (.str "a") [] _ _ hunder rfl hkept⟩,
    ⟨h, h', m, hheap, hreadBase, hreadTop, hlaid, hreadMerged, hreadAgain⟩, hagain⟩

end SqlPrep
