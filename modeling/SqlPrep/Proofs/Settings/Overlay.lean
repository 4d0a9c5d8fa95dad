import SqlPrep.Proofs.Settings.Lookup
import SqlPrep.Settings.Overlay

/-!
# Overlaying named values

The defaults of the settings and of their sections are mappings whose keys are texts. A mapping laid
over one of these replaces or extends the value under each name, in its place, and adds the entries
under all other keys behind, in their own order. Nothing is asked of these other keys but that they
are different.
-/

namespace SqlPrep

/-- A text is the same key as a value that counts as that text. -/
theorem str_sameKey {key : Value} {s : String} :
    (Value.str s).sameKey key = true ↔ key.text? = some s := by
  cases key <;> simp [Value.sameKey, Value.text?, Value.toInt?, @eq_comm _ s]

/-- Two keys that count as one text are the same. -/
theorem sameKey_of_text? {a b : Value} {s : String} (ha : a.text? = some s)
    (hb : b.text? = some s) : a.sameKey b = true := by
  cases a <;> cases b <;> simp_all [Value.sameKey, Value.text?, Value.toInt?]

namespace Value

/-- Whether a key is one of some names. -/
def isNamed (names : List String) (key : Value) : Bool :=
  key.text?.any names.contains

/-- A key is one of some names if its text is. -/
theorem isNamed_eq_true {names : List String} {key : Value} :
    key.isNamed names = true ↔ ∃ name, key.text? = some name ∧ name ∈ names := by
  cases h : key.text? <;> simp [isNamed, h]

/-- A value laid over nothing stays as it is. -/
theorem onto_none (v : Value) : v.onto none = v := by
  cases v <;> rfl

/-- A value that is no mapping stays as it is wherever it is laid. -/
theorem onto_eq_self {v : Value} (h : ∀ entries, v ≠ .map entries) (old : Option Value) :
    v.onto old = v := by
  cases v with
  | map entries => exact absurd rfl (h entries)
  | _ => rfl

/-- A value laid over one that is no mapping replaces it. -/
theorem onto_of_ne_map {old : Value} (h : ∀ entries, old ≠ .map entries) (v : Value) :
    v.onto (some old) = v := by
  cases v with
  | map entries =>
    unfold onto
    split
    · next base hbase => exact absurd (Option.some.inj hbase) (h base)
    · rfl
  | _ => rfl

end Value

namespace Entries

/-- No two keys of a mapping are the same. -/
def Distinct (entries : Entries) : Prop :=
  entries.Pairwise fun a b => a.1.sameKey b.1 = false

/-- Whether keys are distinct is decided by comparing each two of them. -/
instance (entries : Entries) : Decidable entries.Distinct :=
  inferInstanceAs (Decidable (entries.Pairwise fun a b => a.1.sameKey b.1 = false))

/-- The mapping of names to values. -/
def named (fields : List (String × Value)) : Entries :=
  fields.map fun f => (.str f.1, f.2)

/-- The names of fields. -/
abbrev names (fields : List (String × Value)) : List String :=
  fields.map Prod.fst

/-- A field with its value replaced if it has a given name. -/
def setField (name : String) (v : Value) (f : String × Value) : String × Value :=
  (f.1, if f.1 = name then v else f.2)

/-- A field with the value of a mapping laid over its own, if the mapping has one under its name. -/
def laidField (top : Entries) (f : String × Value) : String × Value :=
  (f.1, ((get? top (.str f.1)).map fun v => v.onto (some f.2)).getD f.2)

/-- Replacing a value leaves the names. -/
theorem names_map_setField (fields : List (String × Value)) (name : String) (v : Value) :
    names (fields.map (setField name v)) = names fields :=
  List.map_map

/-- A key is found in the first of two mappings that has it. -/
theorem get?_append (front back : Entries) (key : Value) :
    get? (front ++ back) key = (get? front key).or (get? back key) := by
  induction front with
  | nil => rfl
  | cons entry rest ih =>
    by_cases h : entry.1.sameKey key = true <;> simp [get?, h, ih]

/-- A key is not found if no entry has the same. -/
theorem get?_eq_none {entries : Entries} {key : Value} :
    get? entries key = none ↔ ∀ e ∈ entries, e.1.sameKey key = false := by
  induction entries with
  | nil => simp [get?]
  | cons entry rest ih => by_cases h : entry.1.sameKey key = true <;> simp [get?, h, ih]

/-- An assignment to a key that is not there adds an entry at the end. -/
theorem put_of_get?_eq_none {entries : Entries} {key : Value} (h : get? entries key = none)
    (v : Value) : put entries key v = entries ++ [(key, v)] := by
  induction entries with
  | nil => rfl
  | cons entry rest ih =>
    obtain ⟨hhead, htail⟩ := List.forall_mem_cons.mp (get?_eq_none.mp h)
    rw [put, hhead, if_neg Bool.false_ne_true, ih (get?_eq_none.mpr htail), List.cons_append]

/-- An assignment to a key of the front of a mapping is one in that front. -/
theorem put_append_of_get? {front : Entries} {key old : Value} (h : get? front key = some old)
    (back : Entries) (v : Value) : put (front ++ back) key v = put front key v ++ back := by
  induction front with
  | nil => cases h
  | cons entry rest ih =>
    by_cases hkey : entry.1.sameKey key = true
    · rw [List.cons_append, put, put, if_pos hkey, if_pos hkey, List.cons_append]
    · have hrest : get? rest key = some old := by rwa [get?, if_neg hkey] at h
      rw [List.cons_append, put, put, if_neg hkey, if_neg hkey, ih hrest, List.cons_append]

/-- An assignment to the first key that is the same replaces its value. -/
theorem put_append_cons {front : Entries} {key : Value} (h : get? front key = none) {name old : Value}
    (hname : name.sameKey key = true) (back : Entries) (v : Value) :
    put (front ++ (name, old) :: back) key v = front ++ (name, v) :: back := by
  induction front with
  | nil => exact if_pos hname
  | cons entry rest ih =>
    obtain ⟨hhead, htail⟩ := List.forall_mem_cons.mp (get?_eq_none.mp h)
    rw [List.cons_append, put, hhead, if_neg Bool.false_ne_true, ih (get?_eq_none.mpr htail),
      List.cons_append]

/-- The value of the first key that is the same is found. -/
theorem get?_append_cons {front : Entries} {key : Value} (h : get? front key = none)
    {name : Value} (hname : name.sameKey key = true) (v : Value) (back : Entries) :
    get? (front ++ (name, v) :: back) key = some v := by
  rw [get?_append, h, Option.none_or, get?, if_pos hname]

/-- Of two assignments to a text the later one counts. -/
theorem put_put (entries : Entries) (s : String) (v w : Value) :
    put (put entries (.str s) v) (.str s) w = put entries (.str s) w := by
  induction entries with
  | nil => exact if_pos (sameKey_str.mpr rfl)
  | cons entry rest ih =>
    by_cases h : entry.1.sameKey (.str s) = true
    · rw [put, if_pos h, put, if_pos h, put, if_pos h]
    · rw [put, if_neg h, put, if_neg h, ih, put, if_neg h]

/-- Assigning the value that is already there changes nothing. -/
theorem put_of_get? {entries : Entries} {key v : Value} (h : get? entries key = some v) :
    put entries key v = entries := by
  induction entries with
  | nil => cases h
  | cons entry rest ih =>
    by_cases hkey : entry.1.sameKey key = true
    · rw [get?, if_pos hkey] at h
      rw [put, if_pos hkey, ← Option.some.inj h]
    · rw [get?, if_neg hkey] at h
      rw [put, if_neg hkey, ih h]

/-- A value that is found is the value of an entry. -/
theorem exists_mem_of_get? {entries : Entries} {key v : Value} (h : get? entries key = some v) :
    ∃ k, (k, v) ∈ entries := by
  induction entries with
  | nil => cases h
  | cons entry rest ih =>
    by_cases hkey : entry.1.sameKey key = true
    · rw [get?, if_pos hkey] at h
      obtain rfl := Option.some.inj h
      exact ⟨entry.1, List.mem_cons_self⟩
    · rw [get?, if_neg hkey] at h
      obtain ⟨k, hk⟩ := ih h
      exact ⟨k, List.mem_cons_of_mem _ hk⟩

/-- Among names, a key is found by the text that it counts as. -/
theorem get?_named (fields : List (String × Value)) (key : Value) :
    get? (named fields) key = key.text?.bind fun name => List.lookup name fields := by
  induction fields with
  | nil => cases key.text? <;> rfl
  | cons field rest ih =>
    obtain ⟨field, v⟩ := field
    have hcons : named ((field, v) :: rest) = (.str field, v) :: named rest := rfl
    by_cases h : (Value.str field).sameKey key = true
    · rw [hcons, get?, if_pos h, str_sameKey.mp h, Option.bind_some, List.lookup_cons_self]
    · rw [hcons, get?, if_neg h, ih]
      rw [str_sameKey] at h
      cases hname : key.text? with
      | none => rfl
      | some name =>
        have hne : name ≠ field := fun heq => h (heq ▸ hname)
        simp [List.lookup_cons, beq_eq_false_iff_ne.mpr hne]

/-- The value of a field is found under its name. -/
theorem lookup_of_mem {fields : List (String × Value)} (hnames : (names fields).Nodup)
    {f : String × Value} (hf : f ∈ fields) : List.lookup f.1 fields = some f.2 := by
  induction fields with
  | nil => cases hf
  | cons field rest ih =>
    obtain ⟨hfresh, hrest⟩ := List.nodup_cons.mp hnames
    rcases List.mem_cons.mp hf with rfl | hmem
    · exact List.lookup_cons_self
    · have hne : f.1 ≠ field.1 := fun heq => hfresh (heq ▸ List.mem_map_of_mem hmem)
      obtain ⟨name, v⟩ := field
      rw [List.lookup_cons, beq_eq_false_iff_ne.mpr hne]
      exact ih hrest hmem

/-- A key that is none of the names is not found among them. -/
theorem get?_named_of_not_isNamed {fields : List (String × Value)} {key : Value}
    (h : key.isNamed (names fields) = false) : get? (named fields) key = none := by
  rw [get?_eq_none]
  intro e he
  obtain ⟨f, hf, rfl⟩ := List.mem_map.mp he
  rw [Bool.eq_false_iff]
  intro hsame
  have hnamed : key.isNamed (names fields) = true :=
    Value.isNamed_eq_true.mpr ⟨f.1, str_sameKey.mp hsame, List.mem_map_of_mem hf⟩
  exact Bool.false_ne_true (h.symm.trans hnamed)

/-- An assignment to a name replaces the value of its field. -/
theorem put_named {fields : List (String × Value)} (hnames : (names fields).Nodup) {name : String}
    (hname : name ∈ names fields) {key : Value} (hkey : key.text? = some name) (v : Value) :
    put (named fields) key v = named (fields.map (setField name v)) := by
  induction fields with
  | nil => cases hname
  | cons field rest ih =>
    obtain ⟨hfresh, hrest⟩ := List.nodup_cons.mp hnames
    have hcons (f : String × Value) (fs : List (String × Value)) :
        named (f :: fs) = (.str f.1, f.2) :: named fs := rfl
    rw [List.map_cons, hcons, hcons, put]
    by_cases hfield : field.1 = name
    · have hkeep : rest.map (setField name v) = rest.map id := by
        apply List.map_congr_left
        intro f hf
        have hne : f.1 ≠ name := fun heq => hfresh (hfield ▸ heq ▸ List.mem_map_of_mem hf)
        simp [setField, hne]
      rw [if_pos (str_sameKey.mpr (hfield ▸ hkey)), hkeep, List.map_id, setField, if_pos hfield]
    · have hother : ¬ (Value.str field.1).sameKey key = true := by
        rw [str_sameKey, hkey]
        exact fun heq => hfield (Option.some.inj heq).symm
      have hmem : name ∈ names rest := (List.mem_cons.mp hname).resolve_left fun heq => hfield heq.symm
      rw [if_neg hother, ih hrest hmem, setField, if_neg hfield]

/-- The entries of a mapping under keys that are none of some names. -/
def others (names : List String) (entries : Entries) : Entries :=
  entries.filter fun e => !e.1.isNamed names

/-! ## One entry of an overlay -/

/-- A later entry under another key is laid over the same fields. -/
theorem laidField_cons_of_not_sameKey {key : Value} {f : String × Value}
    (h : key.text? ≠ some f.1) (value : Value) (rest : Entries) :
    laidField ((key, value) :: rest) f = laidField rest f := by
  rw [laidField, get?, if_neg (fun hsame => h (sameKey_str.mp hsame)), laidField]

/-- An entry under a name is laid over its field, and no later one is. -/
theorem map_laidField_cons_of_named {fields : List (String × Value)}
    (hnames : (names fields).Nodup) {f : String × Value} (hf : f ∈ fields) {key value : Value}
    (hkey : key.text? = some f.1) {rest : Entries} (hfresh : ∀ e ∈ rest, key.sameKey e.1 = false) :
    (fields.map (setField f.1 (value.onto (some f.2)))).map (laidField rest) =
      fields.map (laidField ((key, value) :: rest)) := by
  have hlater : get? rest (.str f.1) = none := by
    rw [get?_eq_none]
    intro e he
    rw [Bool.eq_false_iff]
    intro hsame
    have hboth := sameKey_of_text? hkey (sameKey_str.mp hsame)
    exact Bool.false_ne_true ((hfresh e he).symm.trans hboth)
  rw [List.map_map]
  apply List.map_congr_left
  intro g hg
  by_cases hgf : g.1 = f.1
  · have hvalue : g.2 = f.2 := by
      have hlookup := lookup_of_mem hnames hg
      rw [hgf, lookup_of_mem hnames hf] at hlookup
      exact (Option.some.inj hlookup).symm
    have hsame : key.sameKey (.str f.1) = true := sameKey_str.mpr hkey
    simp [setField, laidField, get?, hgf, hlater, hsame, hvalue]
  · have hother : key.text? ≠ some g.1 := fun heq => hgf (Option.some.inj (heq.symm.trans hkey))
    rw [laidField_cons_of_not_sameKey hother, Function.comp_apply, setField, if_neg hgf]

/-- A mapping laid over names, with entries behind them that it does not assign, replaces or extends
the values under the names. Its entries under all other keys follow. -/
theorem overlay_named_append {fields : List (String × Value)} (hnames : (names fields).Nodup)
    {top extra : Entries} (htop : top.Distinct) (hextra : ∀ e ∈ top, get? extra e.1 = none) :
    overlay (named fields ++ extra) top =
      named (fields.map (laidField top)) ++ extra ++
        others (names fields) top := by
  induction top generalizing fields extra with
  | nil =>
    have hkeep : fields.map (laidField []) = fields := List.map_id' fields
    rw [overlay, hkeep, others, List.filter_nil, List.append_nil]
  | cons entry rest ih =>
    obtain ⟨key, value⟩ := entry
    obtain ⟨hfresh, hrest⟩ := List.pairwise_cons.mp htop
    obtain ⟨hhead, htail⟩ := List.forall_mem_cons.mp hextra
    rw [overlay]
    cases hkey : key.isNamed (names fields) with
    | true =>
      obtain ⟨name, htext, hname⟩ := Value.isNamed_eq_true.mp hkey
      obtain ⟨f, hf, rfl⟩ := List.mem_map.mp hname
      have hget : get? (named fields) key = some f.2 := by
        rw [get?_named, htext, Option.bind_some, lookup_of_mem hnames hf]
      rw [get?_append, hget, Option.some_or, put_append_of_get? hget, put_named hnames hname htext,
        ih (by rwa [names_map_setField]) hrest htail, names_map_setField,
        map_laidField_cons_of_named hnames hf htext hfresh]
      simp [others, hkey]
    | false =>
      have hget : get? (named fields ++ extra) key = none := by
        rw [get?_append, get?_named_of_not_isNamed hkey, hhead, Option.or_none]
      have hlaid : fields.map (laidField rest) = fields.map (laidField ((key, value) :: rest)) := by
        apply List.map_congr_left
        intro g hg
        refine (laidField_cons_of_not_sameKey (fun htext => ?_) value rest).symm
        have hnamed : key.isNamed (names fields) = true :=
          Value.isNamed_eq_true.mpr ⟨g.1, htext, List.mem_map_of_mem hg⟩
        exact Bool.false_ne_true (hkey.symm.trans hnamed)
      -- The entry joins those behind the names, which later entries do not assign either.
      have hnext : ∀ e ∈ rest, get? (extra ++ [(key, value)]) e.1 = none := by
        intro e he
        rw [get?_append, htail e he, get?, hfresh e he]
        rfl
      rw [hget, Value.onto_none, put_of_get?_eq_none hget, List.append_assoc, ih hnames hrest hnext,
        hlaid]
      simp [others, hkey]

/-- A mapping laid over names replaces or extends the values under them, and its other entries
follow. -/
theorem overlay_named {fields : List (String × Value)} (hnames : (names fields).Nodup)
    {top : Entries} (htop : top.Distinct) :
    overlay (named fields) top =
      named (fields.map (laidField top)) ++ others (names fields) top := by
  have hextra : ∀ e ∈ top, get? [] e.1 = none := fun _ _ => rfl
  have h := overlay_named_append hnames htop hextra
  rwa [List.append_nil, List.append_nil] at h

/-! ## Names with other entries behind them -/

/-- Names are no other entries, and other entries stay the other entries. -/
theorem others_named_append (fields : List (String × Value)) (entries : Entries) :
    others (names fields) (named fields ++ others (names fields) entries) =
      others (names fields) entries := by
  have hfields : others (names fields) (named fields) = [] := by
    rw [others, List.filter_eq_nil_iff]
    intro e he
    obtain ⟨f, hf, rfl⟩ := List.mem_map.mp he
    have hnamed : (Value.str f.1).isNamed (names fields) = true :=
      Value.isNamed_eq_true.mpr ⟨f.1, rfl, List.mem_map_of_mem hf⟩
    rw [hnamed]
    exact Bool.false_ne_true
  rw [others, List.filter_append]
  change others (names fields) (named fields) ++ List.filter _ (others (names fields) entries) = _
  rw [hfields, List.nil_append, others, List.filter_filter]
  simp only [Bool.and_self]

/-- Different names with other entries behind them have different keys. -/
theorem distinct_named_append {fields : List (String × Value)} (hnames : (names fields).Nodup)
    {entries : Entries} (h : entries.Distinct) :
    Distinct (named fields ++ others (names fields) entries) := by
  refine List.pairwise_append.mpr ⟨?_, h.sublist List.filter_sublist, ?_⟩
  · refine List.pairwise_map.mpr ((List.pairwise_map.mp hnames).imp fun {f g} hne => ?_)
    rw [Bool.eq_false_iff]
    intro hsame
    exact hne (Option.some.inj (str_sameKey.mp hsame)).symm
  · intro e he o ho
    obtain ⟨f, hf, rfl⟩ := List.mem_map.mp he
    rw [Bool.eq_false_iff]
    intro hsame
    have hnamed : o.1.isNamed (names fields) = true :=
      Value.isNamed_eq_true.mpr ⟨f.1, str_sameKey.mp hsame, List.mem_map_of_mem hf⟩
    have hnot := (List.mem_filter.mp ho).2
    rw [hnamed] at hnot
    exact Bool.false_ne_true hnot

end Entries
end SqlPrep
