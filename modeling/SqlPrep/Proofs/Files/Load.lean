import SqlPrep.Files.Store
import SqlPrep.Proofs.Files.Tree
import SqlPrep.Proofs.Settings.Rebuilt

/-!
# What loading and saving do to a tree

Saving makes the directory of a file and writes the text of the settings, or fails and adds nothing
but directories. Loading makes the directory of its file too. If something stands at the path then,
it is read and the tree stays as it is; if nothing does, the default settings are written.
-/

namespace SqlPrep.Files

open Yaml

variable {yaml : Library} {tree : Tree} {path : Path} {d : Document}

/-! ## Texts in files -/

/-- A text without carriage returns has its ends of lines as they are. -/
theorem normalLines_of_not_mem {cs : List Char} (h : '\r' ∉ cs) : normalLines cs = cs := by
  fun_induction normalLines cs with
  | case1 rest ih => exact absurd List.mem_cons_self h
  | case2 rest hrest ih => exact absurd List.mem_cons_self h
  | case3 c rest h₁ h₂ ih => rw [ih fun hmem => h (List.mem_cons_of_mem c hmem)]
  | case4 => rfl

/-- The bytes of a text are those of this text. -/
theorem fromUTF8?_toUTF8 (text : String) : String.fromUTF8? text.toUTF8 = some text := by
  rw [String.fromUTF8?]
  exact dif_pos text.isValidUTF8

/-- A text without carriage returns is what its bytes are. -/
theorem decode_toUTF8 {text : String} (h : '\r' ∉ text.toList) : decode text.toUTF8 = .ok text := by
  simp only [decode, fromUTF8?_toUTF8, normalLines_of_not_mem h, String.ofList_toList]

/-- A document is read from the bytes of its file. -/
theorem readDocument_of_stands? (yaml : Library) {bytes : ByteArray}
    (h : tree.stands? path = some (.file bytes)) :
    readDocument yaml tree path =
      (decode bytes).bind fun text => (yaml.load text).mapError .document := by
  rw [readDocument, Tree.read_eq_ok.mpr h]
  rfl

/-- A document is read by the library if the bytes of its file are a text. -/
theorem readDocument_of_decode (yaml : Library) {bytes : ByteArray} {text : String}
    (h : tree.stands? path = some (.file bytes)) (htext : decode bytes = .ok text) :
    readDocument yaml tree path = (yaml.load text).mapError .document := by
  rw [readDocument_of_stands? yaml h, htext]
  rfl

/-- A file with the text of a document is read as the same value, if the library reads it back. -/
theorem readDocument_dump {text : String} (hyaml : yaml.RoundTrips d)
    (htext : yaml.dump d = .ok text) (hfile : tree.stands? path = some (.file text.toUTF8)) :
    ∃ read, readDocument yaml tree path = .ok read ∧ read.value = d.value := by
  obtain ⟨read, hread, hvalue⟩ := hyaml.loads text htext
  refine ⟨read, ?_, hvalue⟩
  rw [readDocument_of_decode yaml hfile (decode_toUTF8 (hyaml.lines text htext)), hread]
  rfl

/-! ## Saving -/

/-- The root is not written to. -/
theorem write_nil (tree : Tree) (content : ByteArray) :
    tree.write [] content = .error (.obstructed .isDirectory []) :=
  rfl

/-- Writing a document that succeeds has written its text. -/
theorem dumpTo_eq_ok {written : Tree} (h : dumpTo yaml tree path d = (written, .ok ())) :
    ∃ text, yaml.dump d = .ok text ∧ tree.write path text.toUTF8 = .ok written := by
  unfold dumpTo at h
  split at h
  · cases h
  · next text htext =>
    split at h
    · cases h
    · next hwritten =>
      cases h
      exact ⟨text, htext, hwritten⟩

/-- Writing a document that fails has done nothing. -/
theorem dumpTo_eq_error {left : Tree} {cause : SaveError}
    (h : dumpTo yaml tree path d = (left, .error cause)) : left = tree := by
  unfold dumpTo at h
  split at h
  · exact (Prod.mk.inj h).1.symm
  · split at h
    · exact (Prod.mk.inj h).1.symm
    · cases h

/-- Saving that succeeds has written the text of the settings to a file. -/
theorem save_eq_ok {written : Tree} (h : save yaml tree path d = (written, .ok ())) :
    ∃ text, yaml.dump d = .ok text ∧ written.stands? path = some (.file text.toUTF8) ∧
      path ≠ [] := by
  unfold save at h
  split at h
  · cases h
  · obtain ⟨text, htext, hwritten⟩ := dumpTo_eq_ok h
    obtain ⟨-, hstands, -⟩ := Tree.write_eq_ok hwritten
    refine ⟨text, htext, hstands, ?_⟩
    rintro rfl
    rw [write_nil] at hwritten
    cases hwritten

/-- Saving that fails has made directories at most. -/
theorem save_eq_error {left : Tree} {cause : SaveError}
    (h : save yaml tree path d = (left, .error cause)) :
    left = (tree.makeDirectory path.parent).1 := by
  unfold save at h
  split at h
  · next hmade => rw [hmade, (Prod.mk.inj h).1]
  · next hmade => rw [hmade, dumpTo_eq_error h]

/-! ## The content of a document -/

/-- A document that is no mapping gives no entries. -/
theorem givenEntries_of_ne_map (h : ∀ entries, d.value ≠ .map entries) : givenEntries d = [] := by
  unfold givenEntries
  split
  · next entries hentries => exact absurd hentries (h entries)
  · rfl

/-- A mapping gives its entries. -/
theorem givenEntries_of_map {entries : Entries} (h : d.value = .map entries) :
    givenEntries d = entries := by
  rw [givenEntries, h]

/-- All that is reported about a document is its warnings. -/
theorem loadedFrom_records (path : Path) (d : Document) :
    (loadedFrom path d []).records = (loadedFrom path d []).warnings.map (warningRecord path) := by
  simp only [loadedFrom, List.nil_append]

/-- What a missing file is loaded as: the default settings. -/
def defaultsAt (path : Path) : Loaded :=
  loadedFrom path noDocument []

/-- The default settings are loaded without a warning or a report. -/
theorem defaultsAt_eq (path : Path) :
    defaultsAt path = ⟨⟨.map Settings.default, .none⟩, [], path, []⟩ :=
  rfl

/-! ## Loading -/

/-- What loading gives for a path at which something stands. -/
def loadedAt (yaml : Library) (tree : Tree) (path : Path) : Except LoadError Loaded :=
  ((givenAt yaml tree path).mapError .unread).map fun given => loadedFrom path given.1 given.2

/-- A missing file gives no settings. -/
theorem givenAt_of_none (h : tree.stands? path = none) :
    givenAt yaml tree path = .ok (noDocument, []) := by
  rw [givenAt, h]
  rfl

/-- Making the directory of what is there leaves the tree as it is. -/
theorem makeDirectory_parent {e : Entry} (h : tree.stands? path = some e) :
    (tree.makeDirectory path.parent).1 = tree := by
  by_cases hpath : path = []
  · subst hpath
    cases tree <;> rfl
  · rw [Tree.makeDirectory_of_stands? (Tree.stands?_parent hpath h)]

/-- Loading fails where the directory of the file cannot be made. -/
theorem load_of_error {made : Tree} {e : FileError}
    (hmade : tree.makeDirectory path.parent = (made, .error e)) :
    load yaml tree path = (made, .error (.directory e)) := by
  rw [load, hmade]

/-- What stands at the path when its directory has been made is read, and stays as it is. -/
theorem load_of_some {made : Tree} {e : Entry}
    (hmade : tree.makeDirectory path.parent = (made, .ok ())) (h : made.stands? path = some e) :
    load yaml tree path = (made, loadedAt yaml made path) := by
  rw [load, hmade]
  dsimp only
  rw [loadedAt]
  cases givenAt yaml made path with
  | error cause => rfl
  | ok given =>
    dsimp only
    rw [h]
    rfl

/-- Where nothing stands even then, the default settings are written. -/
theorem load_of_none {made : Tree} (hmade : tree.makeDirectory path.parent = (made, .ok ()))
    (h : made.stands? path = none) :
    load yaml tree path = ((dumpTo yaml made path (defaultsAt path).document).1,
      ((dumpTo yaml made path (defaultsAt path).document).2.mapError .unsaved).map
        fun _ => defaultsAt path) := by
  rw [load, hmade]
  dsimp only
  rw [givenAt_of_none h, h]
  rfl

/-- Loading that succeeds has read what stood at the path when its directory was made, and changed
nothing more; or it has written the text of the default settings there. -/
theorem load_eq_ok {left : Tree} {loaded : Loaded} (h : load yaml tree path = (left, .ok loaded)) :
    ∃ made, tree.makeDirectory path.parent = (made, .ok ()) ∧
      ((∃ e, made.stands? path = some e ∧ left = made ∧ loadedAt yaml made path = .ok loaded) ∨
        (made.stands? path = none ∧ loaded = defaultsAt path ∧
          ∃ text, yaml.dump loaded.document = .ok text ∧
            made.write path text.toUTF8 = .ok left)) := by
  rcases hmade : tree.makeDirectory path.parent with ⟨made, e | ⟨⟩⟩
  · cases (load_of_error hmade).symm.trans h
  · refine ⟨made, rfl, ?_⟩
    cases hstands : made.stands? path with
    | some e =>
      obtain ⟨hleft, hloaded⟩ := Prod.mk.inj ((load_of_some hmade hstands).symm.trans h)
      exact .inl ⟨e, rfl, hleft.symm, hloaded⟩
    | none =>
      rw [load_of_none hmade hstands] at h
      rcases hdump : dumpTo yaml made path (defaultsAt path).document with ⟨written, cause | ⟨⟩⟩
      · rw [hdump] at h
        cases h
      · rw [hdump] at h
        cases h
        exact .inr ⟨rfl, rfl, dumpTo_eq_ok hdump⟩

/-- Loading that fails has made directories at most. -/
theorem load_eq_error {left : Tree} {cause : LoadError}
    (h : load yaml tree path = (left, .error cause)) :
    left = (tree.makeDirectory path.parent).1 := by
  rcases hmade : tree.makeDirectory path.parent with ⟨made, e | ⟨⟩⟩
  · exact (Prod.mk.inj (h.symm.trans (load_of_error hmade))).1
  · cases hstands : made.stands? path with
    | some e => exact (Prod.mk.inj (h.symm.trans (load_of_some hmade hstands))).1
    | none =>
      rw [load_of_none hmade hstands] at h
      rcases hdump : dumpTo yaml made path (defaultsAt path).document with ⟨written, cause | ⟨⟩⟩
      · rw [hdump] at h
        obtain rfl := dumpTo_eq_error hdump
        exact (Prod.mk.inj h).1.symm
      · rw [hdump] at h
        cases h

/-- When the directory of a file has been made, loading makes it again without a change. -/
theorem load_made {made : Tree} {e : Entry}
    (hmade : tree.makeDirectory path.parent = (made, .ok ())) (h : made.stands? path = some e) : load yaml made path = (made, loadedAt yaml made path) :=
  load_of_some (Tree.makeDirectory_of_stands? (Tree.stands?_of_makeDirectory hmade)) h

/-- What stands at a path, other than the root, is read from the tree as it is. -/
theorem load_of_stands? (yaml : Library) {e : Entry} (hpath : path ≠ [])
    (h : tree.stands? path = some e) :
    load yaml tree path = (tree, loadedAt yaml tree path) :=
  load_of_some (Tree.makeDirectory_of_stands? (Tree.stands?_parent hpath h)) h

/-- A document that was read is loaded. -/
theorem loadedAt_of_document {e : Entry} (hstands : tree.stands? path = some e)
    (h : readDocument yaml tree path = .ok d) :
    loadedAt yaml tree path = .ok (loadedFrom path d []) := by
  rw [loadedAt, givenAt, hstands, h]
  rfl

/-- A failure that is caught is reported, and the default settings stand in. -/
theorem loadedAt_of_caught {e : Entry} {cause : ReadFailure} (hstands : tree.stands? path = some e)
    (h : readDocument yaml tree path = .error cause) (hcaught : cause.family.isCaught = true) :
    loadedAt yaml tree path =
      .ok { defaultsAt path with records := [unreadRecord path cause] } := by
  rw [loadedAt, givenAt, hstands, h]
  simp only [Option.isNone_some, Bool.false_eq_true, if_false, hcaught, if_true]
  rfl

/-- Any other failure is passed on. -/
theorem loadedAt_of_uncaught {e : Entry} {cause : ReadFailure}
    (hstands : tree.stands? path = some e) (h : readDocument yaml tree path = .error cause) (hcaught : cause.family.isCaught = false) :
    loadedAt yaml tree path = .error (.unread cause) := by
  rw [loadedAt, givenAt, hstands, h]
  simp only [Option.isNone_some, Bool.false_eq_true, if_false, hcaught]
  rfl

/-- A file with the text of settings is loaded as what these settings build to, if the library reads
them back. -/
theorem loadedAt_dump {text : String} {entries : Entries} (hyaml : yaml.RoundTrips d)
    (htext : yaml.dump d = .ok text) (hfile : tree.stands? path = some (.file text.toUTF8))
    (hentries : d.value = .map entries) :
    ∃ loaded, loadedAt yaml tree path = .ok loaded ∧
      loaded.document.value = .map (Settings.build entries).config ∧
      loaded.warnings = (Settings.build entries).warnings ∧
      loaded.records = (Settings.build entries).warnings.map (warningRecord path) := by
  obtain ⟨read, hread, hvalue⟩ := readDocument_dump hyaml htext hfile
  have hgiven := givenEntries_of_map (hvalue.trans hentries)
  refine ⟨loadedFrom path read [], loadedAt_of_document hfile hread, ?_, ?_, ?_⟩
  · rw [loadedFrom, hgiven]
  · rw [loadedFrom, hgiven]
  · rw [loadedFrom_records, loadedFrom, hgiven]

end SqlPrep.Files
