import SqlPrep.Yaml.Builtin

/-!
# Documents that are read back

That a library reads a document back is something to assume of it. For the library that runs, and for
one document, it is a computation: the document is written, read, and the two values are compared,
part by part, with the order of their entries.
-/

namespace SqlPrep

/-! ## Comparing values -/

mutual

/-- Whether two values are the same absent value, truth value, whole number, text, or list or
mapping of such. -/
def Value.sameData : Value → Value → Bool
  | .null, .null => true
  | .bool a, .bool b => a == b
  | .int m, .int n => m == n
  | .str s, .str t => s == t
  | .list items, .list others => sameItems items others
  | .map entries, .map others => sameEntries entries others
  | _, _ => false

/-- Whether two lists have the same members. -/
def Value.sameItems : List Value → List Value → Bool
  | [], [] => true
  | v :: rest, w :: others => v.sameData w && sameItems rest others
  | _, _ => false

/-- Whether two mappings have the same entries in the same order. -/
def Value.sameEntries : List (Value × Value) → List (Value × Value) → Bool
  | [], [] => true
  | (k, v) :: rest, (l, w) :: others => k.sameData l && v.sameData w && sameEntries rest others
  | _, _ => false

end

namespace Value

mutual

/-- Values that compare as the same are the same. -/
theorem eq_of_sameData {v w : Value} (h : v.sameData w = true) : v = w := by
  unfold sameData at h
  split at h
  · rfl
  · rw [beq_iff_eq.mp h]
  · rw [beq_iff_eq.mp h]
  · rw [beq_iff_eq.mp h]
  · rw [eq_of_sameItems h]
  · rw [eq_of_sameEntries h]
  · cases h

/-- Lists that compare as the same are the same. -/
theorem eq_of_sameItems {items others : List Value} (h : sameItems items others = true) :
    items = others := by
  unfold sameItems at h
  split at h
  · rfl
  · obtain ⟨hhead, hrest⟩ := Bool.and_eq_true_iff.mp h
    rw [eq_of_sameData hhead, eq_of_sameItems hrest]
  · cases h

/-- Mappings that compare as the same are the same, with the order of their entries. -/
theorem eq_of_sameEntries {entries others : List (Value × Value)}
    (h : sameEntries entries others = true) : entries = others := by
  unfold sameEntries at h
  split at h
  · rfl
  · obtain ⟨hhead, hrest⟩ := Bool.and_eq_true_iff.mp h
    obtain ⟨hkey, hvalue⟩ := Bool.and_eq_true_iff.mp hhead
    rw [eq_of_sameData hkey, eq_of_sameData hvalue, eq_of_sameEntries hrest]
  · cases h

end

end Value

/-! ## Reading back -/

namespace Yaml

/-- The library that runs reads the characters of a text. -/
theorem builtin_load (text : String) :
    builtin.load text = (Document.ofText text.toList).mapError ReadError.raised :=
  rfl

/-- The library that runs writes the text that a document has. -/
theorem builtin_dump (d : Document) :
    builtin.dump d =
      (d.render.map String.ofList).mapError fun fault => (ReadError.malformed fault).raised :=
  rfl

/-- Whether the library that runs reads a value from a text. -/
def reads (text : List Char) (v : Value) : Bool :=
  match Document.ofText text with
  | .error _ => false
  | .ok read => read.value.sameData v

/-- The value that is read from a text. -/
theorem reads_sound {text : List Char} {v : Value} (h : reads text v = true) :
    ∃ read, builtin.load (String.ofList text) = .ok read ∧ read.value = v := by
  unfold reads at h
  split at h
  · cases h
  · next read hread =>
    refine ⟨read, ?_, Value.eq_of_sameData h⟩
    rw [builtin_load, String.toList_ofList, hread]
    rfl

/-- Whether the library that runs writes a document, in a text without carriage returns, and reads it
back from there. -/
def Document.readsBack (d : Document) : Bool :=
  match d.render with
  | .error _ => false
  | .ok text => reads text d.value && !text.contains '\r'

/-- A document that is the same when it is read has a text, and is read back from it. -/
theorem Document.readsBack_sound {d : Document} (h : d.readsBack = true) :
    (∃ text, builtin.dump d = .ok text) ∧ builtin.RoundTrips d := by
  unfold readsBack at h
  split at h
  · cases h
  · next text htext =>
    obtain ⟨hreads, hlines⟩ := Bool.and_eq_true_iff.mp h
    have hdump : builtin.dump d = .ok (String.ofList text) := by
      rw [builtin_dump, htext]
      rfl
    refine ⟨⟨_, hdump⟩, fun other hother => ?_, fun other hother => ?_⟩
    · obtain rfl := Except.ok.inj (hdump.symm.trans hother)
      exact reads_sound hreads
    · obtain rfl := Except.ok.inj (hdump.symm.trans hother)
      simpa using hlines

end Yaml
end SqlPrep
