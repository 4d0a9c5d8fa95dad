import SqlPrep.Proofs.Files.Load
import SqlPrep.Yaml.Builtin

/-!
# Loading a file that cannot be used

What loading makes of the bytes of a settings file, for any library: of a document that the library
reads, of bytes that are no text, and of a text for which the library raises an exception. The
default settings stand in, with a report, for bytes that are no text and for exceptions of the
families that loading catches. An exception of another family is passed on, and the library that
runs raises such ones for scalars that denote no value of their tag.
-/

namespace SqlPrep.Files

open Yaml Settings

/-! ## What the bytes of a file are -/

/-- The bytes are the text of a document. -/
def HoldsDocument (yaml : Library) (bytes : ByteArray) (document : Document) : Prop :=
  ∃ text, decode bytes = .ok text ∧ yaml.load text = .ok document

/-- The bytes are no text, or the library raises an exception for their text. -/
inductive HoldsNone (yaml : Library) (bytes : ByteArray) : ReadFailure → Prop
  | encoding (h : String.fromUTF8? bytes = none) : HoldsNone yaml bytes .encoding
  | document {text : String} {raised : Raised} (h : decode bytes = .ok text)
      (hraised : yaml.load text = .error raised) : HoldsNone yaml bytes (.document raised)

/-- Bytes that cannot be decoded are not those of a text in UTF-8. -/
theorem decode_eq_error {bytes : ByteArray} {cause : ReadFailure}
    (h : decode bytes = .error cause) : String.fromUTF8? bytes = none ∧ cause = .encoding := by
  unfold decode at h
  split at h
  · next hnone => exact ⟨hnone, (Except.error.inj h).symm⟩
  · cases h

/-- Every file holds a document or none, and is read accordingly. -/
theorem readDocument_cases (yaml : Library) {tree : Tree} {path : Path} {bytes : ByteArray}
    (hfile : tree.stands? path = some (.file bytes)) :
    (∃ cause, HoldsNone yaml bytes cause ∧ readDocument yaml tree path = .error cause) ∨
    ∃ document, HoldsDocument yaml bytes document ∧ readDocument yaml tree path = .ok document := by
  cases htext : decode bytes with
  | error cause =>
    have hread := readDocument_of_stands? yaml hfile
    obtain ⟨hnone, rfl⟩ := decode_eq_error htext
    rw [htext] at hread
    exact .inl ⟨.encoding, .encoding hnone, hread⟩
  | ok text =>
    have hread := readDocument_of_decode yaml hfile htext
    cases hload : yaml.load text with
    | error raised =>
      rw [hload] at hread
      exact .inl ⟨.document raised, .document htext hload, hread⟩
    | ok document =>
      rw [hload] at hread
      exact .inr ⟨document, ⟨text, htext, hload⟩, hread⟩

/-! ## What is loaded -/

/-- Loading a file that is there leaves the tree as it is, whatever the library does. It fails only
with an exception that the library raises for the text and that loading does not catch. Otherwise the
settings are valid: the default ones, with a report, if the bytes are no text or the library raises an
exception that is caught; the default ones if the document is no mapping; and those that are built
from its entries if it is one. -/
theorem load_file (yaml : Library) {tree : Tree} {path : Path} {bytes : ByteArray}
    (hpath : path ≠ []) (hfile : tree.stands? path = some (.file bytes)) :
    (∃ raised, HoldsNone yaml bytes (.document raised) ∧ raised.family.isCaught = false ∧
      load yaml tree path = (tree, .error (.unread (.document raised)))) ∨
    ∃ loaded config, load yaml tree path = (tree, .ok loaded) ∧
      loaded.document.value = .map config ∧ Valid config ∧
      ((∃ cause, HoldsNone yaml bytes cause ∧ cause.family.isCaught = true ∧
          config = Settings.default ∧ loaded.warnings = [] ∧
          loaded.records = [unreadRecord path cause]) ∨
        ∃ document, HoldsDocument yaml bytes document ∧
          ((∀ entries, document.value ≠ .map entries) →
            config = Settings.default ∧ loaded.warnings = []) ∧
          (∀ entries, document.value = .map entries →
            config = (build entries).config ∧ loaded.warnings = (build entries).warnings) ∧
          loaded.records = loaded.warnings.map (warningRecord path)) := by
  have hload := load_of_stands? yaml hpath hfile
  rcases readDocument_cases yaml hfile with ⟨cause, hnone, hread⟩ | ⟨document, hholds, hread⟩
  · cases hcaught : cause.family.isCaught with
    | true =>
      rw [loadedAt_of_caught hfile hread hcaught, defaultsAt_eq] at hload
      have hvalid := build_valid []
      rw [build_nil] at hvalid
      exact .inr ⟨_, Settings.default, hload, rfl, hvalid,
        .inl ⟨cause, hnone, hcaught, rfl, rfl, rfl⟩⟩
    | false =>
      rw [loadedAt_of_uncaught hfile hread hcaught] at hload
      cases hnone with
      | encoding h => cases hcaught
      | document h hraised => exact .inl ⟨_, .document h hraised, hcaught, hload⟩
  · rw [loadedAt_of_document hfile hread] at hload
    refine .inr ⟨_, _, hload, rfl, build_valid _,
      .inr ⟨document, hholds, fun hmap => ?_, fun entries hentries => ?_,
        loadedFrom_records path document⟩⟩
    · rw [loadedFrom, givenEntries_of_ne_map hmap, build_nil]
      exact ⟨rfl, rfl⟩
    · rw [loadedFrom, givenEntries_of_map hentries]
      exact ⟨rfl, rfl⟩

/-- A byte that starts no character: the default settings are loaded, with a report. -/
theorem load_file_undecodable :
    ∃ loaded, load builtin (.directory [("c.yaml", .file ⟨#[0xFF]⟩)]) [.down "c.yaml"] =
        (.directory [("c.yaml", .file ⟨#[0xFF]⟩)], .ok loaded) ∧
      loaded.document.value = .map Settings.default ∧
      loaded.records = [record "Could not read c.yaml, using defaults: <UnicodeDecodeError>"] := by
  have hbytes : String.fromUTF8? ⟨#[0xFF]⟩ = none := by
    rw [← Option.isNone_iff_eq_none]
    decide +kernel
  have htext {text : String} : decode ⟨#[0xFF]⟩ ≠ .ok text := by
    intro h
    rw [decode, hbytes] at h
    cases h
  have hfile : Tree.stands? (.directory [("c.yaml", .file ⟨#[0xFF]⟩)]) [.down "c.yaml"] =
      some (.file ⟨#[0xFF]⟩) := rfl
  rcases load_file builtin (by decide) hfile with
    ⟨raised, hnone, -⟩ | ⟨loaded, config, hload, hconfig, -, hbroken | ⟨document, ⟨text, h, -⟩, -⟩⟩
  · cases hnone with
    | document h => exact absurd h htext
  · obtain ⟨cause, hnone, -, rfl, -, hrecords⟩ := hbroken
    refine ⟨loaded, hload, hconfig, ?_⟩
    cases hnone with
    | encoding h => exact hrecords
    | document h => exact absurd h htext
  · exact absurd h htext

/-- A scalar that is tagged as a whole number and is none: the exception is that of an unsuitable
value, not one of the library's own. -/
theorem load_abc : builtin.load "x: !!int abc\n" =
    .error ⟨.other "ValueError", "invalid literal for int() with base 10: 'abc'"⟩ := by
  rw [← failure?_eq_some]
  decide +kernel

/-- Loading can fail on a file that is there. -/
theorem load_file_not_total :
    ¬ ∀ (tree : Tree) (path : Path) (bytes : ByteArray), path ≠ [] →
      tree.stands? path = some (.file bytes) →
      ∃ loaded, load builtin tree path = (tree, .ok loaded) := by
  intro htotal
  have hfile : Tree.stands? (.directory [("c.yaml", .file "x: !!int abc\n".toUTF8)])
      [.down "c.yaml"] = some (.file "x: !!int abc\n".toUTF8) := rfl
  have hread := readDocument_of_decode builtin hfile (decode_toUTF8 (by decide))
  rw [load_abc] at hread
  obtain ⟨loaded, hload⟩ := htotal _ _ _ (by decide) hfile
  rw [load_of_stands? builtin (by decide) hfile, loadedAt_of_uncaught hfile hread rfl] at hload
  cases (Prod.mk.inj hload).2

end SqlPrep.Files
