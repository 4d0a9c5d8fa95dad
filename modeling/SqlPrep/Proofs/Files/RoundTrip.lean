import SqlPrep.Proofs.Files.Load
import SqlPrep.Proofs.Yaml.ReadBack

/-!
# Loading again, and loading what was saved

Loading never changes a file that is there, and it can be repeated: after a first time that
succeeds, the file is there and holds the settings that were loaded. Settings that were built and
then saved are loaded as they are, since they are their own normal form. All that is assumed of the
library is that it reads back what it has written for the settings at hand.
-/

namespace SqlPrep.Files

open Yaml Settings

variable {yaml : Library} {tree left : Tree} {path : Path} {loaded : Loaded}

/-! ## Loading what was saved -/

/-- Saving and loading settings is lossless. Settings that were built from given entries and then
saved are loaded from their file as they are, entries in order, without a warning or a report, and
loading leaves the file as it was written. -/
theorem load_save (yaml : Library) {raw : Entries} (hraw : Given raw) {sharing : Sharing}
    (hyaml : yaml.RoundTrips ⟨.map (build raw).config, sharing⟩) {tree written : Tree} {path : Path}
    (hsave : save yaml tree path ⟨.map (build raw).config, sharing⟩ = (written, .ok ())) :
    ∃ text loaded, yaml.dump ⟨.map (build raw).config, sharing⟩ = .ok text ∧
      written.read path = .ok text.toUTF8 ∧
      load yaml written path = (written, .ok loaded) ∧
      loaded.document.value = .map (build raw).config ∧
      loaded.warnings = [] ∧ loaded.records = [] := by
  obtain ⟨text, htext, hfile, hpath⟩ := save_eq_ok hsave
  obtain ⟨loaded, hloaded, hconfig, hwarnings, hrecords⟩ := loadedAt_dump hyaml htext hfile rfl
  rw [build_build hraw] at hconfig hwarnings hrecords
  refine ⟨text, loaded, htext, Tree.read_eq_ok.mpr hfile, ?_, hconfig, hwarnings, hrecords⟩
  rw [load_of_stands? yaml hpath hfile, hloaded]

/-- Settings with an entry of their own, whose strategy was given in mixed case, are saved in an
empty tree and loaded in normal form. -/
theorem load_save_mixed :
    ∃ raw written loaded,
      raw = [(.str "sql", .map [(.str "remove_comments", .str " OneLine "),
        (.int 1, .list [.null, .str "on"])])] ∧
      Given raw ∧ builtin.RoundTrips ⟨.map (build raw).config, .none⟩ ∧
      save builtin Tree.empty [.down "conf", .down "config.yaml"] ⟨.map (build raw).config, .none⟩ =
        (written, .ok ()) ∧
      load builtin written [.down "conf", .down "config.yaml"] = (written, .ok loaded) ∧
      loaded.document.value = .map
        [(.str "sql", .map [(.str "path", .str "/app/sql_queries"),
            (.str "remove_comments", .str "oneline"), (.str "remove_comments_from", .str "all"),
            (.int 1, .list [.null, .str "on"])]),
          (.str "logging", .map [(.str "level", .str "WARNING")])] := by
  obtain ⟨raw, hraw⟩ : ∃ raw : Entries, raw = [(.str "sql",
      .map [(.str "remove_comments", .str " OneLine "), (.int 1, .list [.null, .str "on"])])] :=
    ⟨_, rfl⟩
  have hgiven : Given raw := by
    subst hraw
    refine ⟨by decide, fun e he entries hentries => ?_⟩
    obtain rfl := List.mem_singleton.mp he
    cases hentries
    decide
  have hcheck : Document.readsBack ⟨.map (build raw).config, .none⟩ = true := by
    subst hraw
    decide +kernel
  obtain ⟨⟨text, htext⟩, hyaml⟩ := Document.readsBack_sound hcheck
  have hsave : save builtin Tree.empty [.down "conf", .down "config.yaml"]
      ⟨.map (build raw).config, .none⟩ =
      (.directory [("conf", .directory [("config.yaml", .file text.toUTF8)])], .ok ()) := by
    simp only [save, dumpTo, htext]
    rfl
  obtain ⟨-, loaded, -, -, hload, hconfig, -⟩ := load_save builtin hgiven hyaml hsave
  refine ⟨raw, _, loaded, hraw, hgiven, hyaml, hsave, hload, ?_⟩
  rw [hconfig, hraw]
  rfl

/-! ## What loading leaves -/

/-- Loading leaves what is there, whether it succeeds or not. -/
theorem load_fst_of_stands? {e : Entry} (h : tree.stands? path = some e) :
    (load yaml tree path).1 = tree := by
  have hmade := makeDirectory_parent h
  rcases hload : load yaml tree path with ⟨left, cause | loaded⟩
  · exact (load_eq_error hload).trans hmade
  · obtain ⟨made, hdirectory, ⟨e, -, rfl, -⟩ | ⟨hnone, -⟩⟩ := load_eq_ok hload
    · rw [hdirectory] at hmade
      exact hmade
    · rw [hdirectory] at hmade
      obtain rfl := hmade
      cases h.symm.trans hnone

/-- Loading that fails keeps all that was there. -/
theorem keeps_of_load_error {cause : LoadError} (h : load yaml tree path = (left, .error cause)) :
    tree.Keeps left := by
  rw [load_eq_error h]
  exact (Tree.addsDirectories_makeDirectory tree path.parent).keeps

/-- Saving that fails keeps all that was there. -/
theorem keeps_of_save_error {d : Document} {cause : SaveError}
    (h : save yaml tree path d = (left, .error cause)) : tree.Keeps left := by
  rw [save_eq_error h]
  exact (Tree.addsDirectories_makeDirectory tree path.parent).keeps

/-- What is in the second tree and not in the first one is where a path leads to, or a directory that
a beginning of its parent leads to. -/
def AddsPath (before after : Tree) (path : Path) : Prop :=
  ∀ q e, before.found? q = none → after.found? q = some e →
    after.resolve path = .ok q ∨
      e = .directory ∧ ∃ steps, steps <+: path.parent ∧ after.resolve steps = .ok q

/-- Writing a file into a directory that was made for it adds the file and directories on its way. -/
theorem addsPath_of_write {made : Tree} {content : ByteArray}
    (hmade : tree.AddsDirectories made path.parent) (hnone : made.stands? path = none)
    (h : made.write path content = .ok left) : tree.Keeps left ∧ AddsPath tree left path := by
  obtain ⟨place, -, hresolve, hfree, hfound⟩ := Tree.write_eq_ok h
  have hkeeps := Tree.keeps_of_found? (hfree hnone) hfound
  refine ⟨hmade.keeps.trans hkeeps, fun q e hold hnew => ?_⟩
  rw [hfound] at hnew
  split at hnew
  · next hq => exact .inl (hq ▸ hresolve)
  · obtain ⟨hentry, steps, hsteps, hleads⟩ := hmade.new q e hold hnew
    exact .inr ⟨hentry, steps, hsteps, hkeeps.covers.resolve hleads⟩

/-- Loading writes the default settings where nothing stands, if the directory can be made and the
library writes them. -/
theorem exists_load {made : Tree} {text : String}
    (hmade : tree.makeDirectory path.parent = (made, .ok ())) (hnone : made.stands? path = none)
    (hnull : path.hasNull = false) (htext : yaml.dump ⟨.map Settings.default, .none⟩ = .ok text) :
    ∃ left, load yaml tree path = (left, .ok (defaultsAt path)) := by
  obtain ⟨left, hleft⟩ :=
    Tree.exists_write hnone hnull (Tree.stands?_of_makeDirectory hmade) text.toUTF8
  have hdump : dumpTo yaml made path (defaultsAt path).document = (left, .ok ()) := by
    simp only [dumpTo, defaultsAt_eq, htext, hleft]
  refine ⟨left, ?_⟩
  rw [load_of_none hmade hnone, hdump]
  rfl

/-- Loading that succeeded succeeds again, with the same settings and warnings. -/
theorem load_again (hyaml : yaml.RoundTrips ⟨.map Settings.default, .none⟩)
    (h : load yaml tree path = (left, .ok loaded)) :
    ∃ again, load yaml left path = (left, .ok again) ∧
      again.document.value = loaded.document.value ∧ again.warnings = loaded.warnings := by
  obtain ⟨made, hmade, ⟨e, hstands, rfl, hloaded⟩ | ⟨-, rfl, text, htext, hwritten⟩⟩ := load_eq_ok h
  · refine ⟨loaded, ?_, rfl, rfl⟩
    rw [load_made hmade hstands, hloaded]
  · obtain ⟨-, hfile, -⟩ := Tree.write_eq_ok hwritten
    have hpath : path ≠ [] := by
      rintro rfl
      rw [write_nil] at hwritten
      cases hwritten
    obtain ⟨again, hagain, hconfig, hwarnings, -⟩ := loadedAt_dump hyaml htext hfile rfl
    refine ⟨again, ?_, hconfig, hwarnings⟩
    rw [load_of_stands? yaml hpath hfile, hagain]

/-- Loading never touches what is already there, and is repeatable. What stands at the path stays,
with the whole tree, whether loading succeeds or fails. If nothing stands there, the missing
directories of the path are made first. Where nothing stands at the path then, loading succeeds if it
can, with the default settings and no warning; it adds the file at the path, which holds their text,
and directories on the way. Something can stand there only if the path goes up again out of a
directory that was missing; then nothing is added but directories, and what stands there is loaded.
Loading or saving that fails keeps everything. Loading that succeeded succeeds again, with the same
settings and warnings, and changes nothing. -/
theorem loading_keeps_files (yaml : Library)
    (hyaml : yaml.RoundTrips ⟨.map Settings.default, .none⟩) (tree : Tree) (path : Path) :
    (∀ e, tree.stands? path = some e → (load yaml tree path).1 = tree) ∧
    (∀ made text, tree.makeDirectory path.parent = (made, .ok ()) → made.stands? path = none →
      path.hasNull = false → yaml.dump ⟨.map Settings.default, .none⟩ = .ok text →
      ∃ left, load yaml tree path = (left, .ok (defaultsAt path))) ∧
    (∀ left loaded, tree.stands? path = none → load yaml tree path = (left, .ok loaded) →
      ((tree.makeDirectory path.parent).1.stands? path = none →
        loaded.document.value = .map Settings.default ∧ loaded.warnings = [] ∧
        (∃ text, yaml.dump loaded.document = .ok text ∧
          left.stands? path = some (.file text.toUTF8)) ∧
        tree.Keeps left ∧ AddsPath tree left path) ∧
      (∀ e, (tree.makeDirectory path.parent).1.stands? path = some e →
        .up ∈ path ∧ tree.AddsDirectories left path.parent ∧ left.stands? path = some e ∧
        load yaml left path = (left, .ok loaded))) ∧
    (∀ left cause, load yaml tree path = (left, .error cause) → tree.Keeps left) ∧
    (∀ d left cause, save yaml tree path d = (left, .error cause) → tree.Keeps left) ∧
    (∀ left loaded, load yaml tree path = (left, .ok loaded) →
      ∃ again, load yaml left path = (left, .ok again) ∧
        again.document.value = loaded.document.value ∧ again.warnings = loaded.warnings) := by
  have hadds := Tree.addsDirectories_makeDirectory tree path.parent
  refine ⟨fun _ => load_fst_of_stands?, fun _ _ => exists_load, ?_,
    fun _ _ => keeps_of_load_error, fun _ _ _ => keeps_of_save_error, fun _ _ => load_again hyaml⟩
  intro left loaded hmissing hload
  obtain ⟨made, hmade, ⟨e, hstands, rfl, hloaded⟩ | ⟨hnone, rfl, text, htext, hwritten⟩⟩ :=
    load_eq_ok hload
  · rw [hmade] at hadds ⊢
    refine ⟨fun hnone => (by cases hstands.symm.trans hnone), fun f hf => ⟨?_, hadds, hf, ?_⟩⟩
    · by_contra hup
      have hnone := Tree.stands?_of_makeDirectory_parent hup hmissing
      rw [hmade] at hnone
      cases hstands.symm.trans hnone
    · rw [load_made hmade hstands, hloaded]
  · rw [hmade] at hadds ⊢
    obtain ⟨-, hfile, -⟩ := Tree.write_eq_ok hwritten
    exact ⟨fun _ => ⟨rfl, rfl, ⟨text, htext, hfile⟩, addsPath_of_write hadds hnone hwritten⟩,
      fun e he => (by cases hnone.symm.trans he)⟩

/-- The default settings have a text, and are read back from it. -/
theorem default_readsBack : Document.readsBack ⟨.map Settings.default, .none⟩ = true := by
  decide +kernel

/-- In an empty tree the default settings are loaded, written in a directory of their own, and
loaded again. -/
theorem loading_keeps_files_empty :
    ∃ left loaded again,
      builtin.RoundTrips ⟨.map Settings.default, .none⟩ ∧
      load builtin Tree.empty [.down "conf", .down "config.yaml"] = (left, .ok loaded) ∧
      loaded.document.value = .map Settings.default ∧
      (∃ bytes, left.stands? [.down "conf", .down "config.yaml"] = some (.file bytes)) ∧
      load builtin left [.down "conf", .down "config.yaml"] = (left, .ok again) ∧
      again.document.value = .map Settings.default := by
  obtain ⟨⟨text, htext⟩, hyaml⟩ := Document.readsBack_sound default_readsBack
  obtain ⟨-, hload, hmissing, -, -, hagain⟩ :=
    loading_keeps_files builtin hyaml Tree.empty [.down "conf", .down "config.yaml"]
  obtain ⟨left, hload⟩ := hload (.directory [("conf", .empty)]) text rfl rfl rfl htext
  obtain ⟨hconfig, -, ⟨text, -, hfile⟩, -⟩ := (hmissing left _ rfl hload).1 rfl
  obtain ⟨again, hagain, hsame, -⟩ := hagain left _ hload
  exact ⟨left, _, again, hyaml, hload, hconfig, ⟨_, hfile⟩, hagain, hsame.trans hconfig⟩

/-- A path that goes up again out of a missing directory leads nowhere, and yet the settings behind it
are loaded, without being written: the missing directory was made on the way. -/
theorem load_behind_missing :
    let before : Tree := .directory [("c.yaml", .file "logging:\n  level: DEBUG\n".toUTF8)]
    let path : Path := [.down "missing", .up, .down "c.yaml"]
    ∃ left loaded, before.stands? path = none ∧ load builtin before path = (left, .ok loaded) ∧
      loaded.document.value = .map [(.str "sql", .map defaultSql),
        (.str "logging", .map [(.str "level", .str "DEBUG")])] ∧
      loaded.document.value ≠ .map Settings.default ∧
      left = .directory
        [("c.yaml", .file "logging:\n  level: DEBUG\n".toUTF8), ("missing", .empty)] := by
  intro before path
  obtain ⟨made, hleft⟩ : ∃ made : Tree, made = .directory
      [("c.yaml", .file "logging:\n  level: DEBUG\n".toUTF8), ("missing", .empty)] := ⟨_, rfl⟩
  have hmade : before.makeDirectory path.parent = (made, .ok ()) := by
    rw [hleft]
    rfl
  have hstands : made.stands? path = some (.file "logging:\n  level: DEBUG\n".toUTF8) := by
    rw [hleft]
    rfl
  have hreads : reads "logging:\n  level: DEBUG\n".toList
      (.map [(.str "logging", .map [(.str "level", .str "DEBUG")])]) = true := by
    decide +kernel
  obtain ⟨read, hread, hvalue⟩ := reads_sound hreads
  rw [String.ofList_toList] at hread
  have hdocument : readDocument builtin made path = .ok read := by
    rw [readDocument_of_decode builtin hstands (decode_toUTF8 (by decide)), hread]
    rfl
  have hconfig : (loadedFrom path read []).document.value = .map [(.str "sql", .map defaultSql),
      (.str "logging", .map [(.str "level", .str "DEBUG")])] := by
    rw [loadedFrom, givenEntries_of_map hvalue]
    rfl
  refine ⟨made, loadedFrom path read [], rfl, ?_, hconfig, ?_, hleft⟩
  · rw [load_of_some hmade hstands, loadedAt_of_document hstands hdocument]
  · rw [hconfig]
    simp [Settings.default, defaultLogging, levelKey, loggingSection, sqlSection]

end SqlPrep.Files
