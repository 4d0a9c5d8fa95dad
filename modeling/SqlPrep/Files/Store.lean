import SqlPrep.Files.Tree
import SqlPrep.Log.Record
import SqlPrep.Settings.Validation
import SqlPrep.Yaml.Library

/-!
# Settings files

Loads settings from a file and saves them to one. The default settings stand in for a file that is
not text or not a document, which is reported; but an exception of another family that the library
raises for a document is passed on. A file that is missing is written with the settings that were
loaded.
-/

namespace SqlPrep.Files

open Yaml

/-- The path of the settings file if no other one is named, given the directory in which the settings
of a program are kept. -/
def defaultPath (settingsDirectory : String → String) : Path :=
  Path.ofText (settingsDirectory "sql_query") ++ [.down "config.yaml"]

/-! ## Failures -/

/-- Why no document is read from a file: the file cannot be read, its bytes are no text, or the
library raises an exception. -/
inductive ReadFailure where
  | file (cause : FileError)
  | encoding
  | document (cause : Raised)
  deriving DecidableEq

/-- The family of the exception. A path with a null character is an unsuitable value. -/
def ReadFailure.family : ReadFailure → Family
  | .file (.obstructed _ _) => .os
  | .file .null => .other "ValueError"
  | .encoding => .decoding
  | .document cause => cause.family

/-- The mark that stands for the text of an exception in a report. -/
def ReadFailure.mark (cause : ReadFailure) : String :=
  match cause.family with
  | .os => "<OSError>"
  | .decoding => "<UnicodeDecodeError>"
  | .yaml => "<YAMLError>"
  | .other name => s!"<{name}>"

/-- Why settings cannot be saved. -/
inductive SaveError where
  | file (cause : FileError)
  | document (cause : Raised)

/-- Why settings cannot be loaded: the directory of their file is not there and cannot be made, the
reading of the file fails in a way that is not caught, or a missing file cannot be written. -/
inductive LoadError where
  | directory (cause : FileError)
  | unread (cause : ReadFailure)
  | unsaved (cause : SaveError)

/-! ## Loading and saving -/

/-- Loaded settings, what was replaced in them, and what was reported. -/
structure Loaded where
  document : Document
  warnings : List Settings.Warning
  path : Path
  records : List Log.Record

/-- The characters of a text, with each end of a line as a line feed. -/
def normalLines : List Char → List Char
  | '\r' :: '\n' :: rest => '\n' :: normalLines rest
  | '\r' :: rest => '\n' :: normalLines rest
  | c :: rest => c :: normalLines rest
  | [] => []

/-- The text that the bytes of a file are. -/
def decode (bytes : ByteArray) : Except ReadFailure String :=
  match String.fromUTF8? bytes with
  | none => .error .encoding
  | some text => .ok (String.ofList (normalLines text.toList))

/-- The document in the file at a path. -/
def readDocument (yaml : Library) (tree : Tree) (path : Path) : Except ReadFailure Document := do
  let bytes ← (tree.read path).mapError .file
  let text ← decode bytes
  (yaml.load text).mapError .document

/-- A report of the program about its settings. -/
def record (message : String) : Log.Record :=
  ⟨Log.warning, "sql_query.config", message⟩

/-- The report that the default settings stand in for a file. -/
def unreadRecord (path : Path) (cause : ReadFailure) : Log.Record :=
  record s!"Could not read {path.text}, using defaults: {cause.mark}"

/-- No settings at all. -/
def noDocument : Document := ⟨.null, .none⟩

/-- The document that is given at a path, with reports. A missing file gives none, and neither does
one whose reading fails in a way that is caught. -/
def givenAt (yaml : Library) (tree : Tree) (path : Path) :
    Except ReadFailure (Document × List Log.Record) :=
  if (tree.stands? path).isNone then .ok (noDocument, [])
  else
    match readDocument yaml tree path with
    | .ok document => .ok (document, [])
    | .error cause =>
      if cause.family.isCaught then .ok (noDocument, [unreadRecord path cause]) else .error cause

/-- The entries that a document gives as settings. A document that is no mapping gives none. -/
def givenEntries (document : Document) : Entries :=
  match document.value with
  | .map entries => entries
  | _ => []

/-- The report of a warning about settings. -/
def warningRecord (path : Path) (w : Settings.Warning) : Log.Record :=
  record s!"{path.text}: {w.message}"

/-- The settings that a document leads to, after reports about its reading. Both sections are made
anew, so neither is shared. -/
def loadedFrom (path : Path) (document : Document) (reports : List Log.Record) : Loaded :=
  let checked := Settings.build (givenEntries document)
  let sections : List Value := [.str Settings.sqlSection, .str Settings.loggingSection]
  { document := ⟨.map checked.config, document.sharing.apart.withApart sections⟩
    warnings := checked.warnings
    path := path
    records := reports ++ checked.warnings.map (warningRecord path) }

/-- Writes the text of a document to a file. The text is made first. -/
def dumpTo (yaml : Library) (tree : Tree) (path : Path) (d : Document) :
    Tree × Except SaveError Unit :=
  match yaml.dump d with
  | .error cause => (tree, .error (.document cause))
  | .ok text =>
    match tree.write path text.toUTF8 with
    | .error e => (tree, .error (.file e))
    | .ok written => (written, .ok ())

/-- Saves settings to a file, and makes the directories that it stands in. These are made also when
the settings cannot be written. -/
def save (yaml : Library) (tree : Tree) (path : Path) (d : Document) :
    Tree × Except SaveError Unit :=
  match tree.makeDirectory path.parent with
  | (made, .error e) => (made, .error (.file e))
  | (made, .ok ()) => dumpTo yaml made path d

/-- Loads settings from a file, in directories that are made first. If there is no file even then,
it is written. -/
def load (yaml : Library) (tree : Tree) (path : Path) : Tree × Except LoadError Loaded :=
  match tree.makeDirectory path.parent with
  | (made, .error e) => (made, .error (.directory e))
  | (made, .ok ()) =>
    match givenAt yaml made path with
    | .error cause => (made, .error (.unread cause))
    | .ok (document, reports) =>
      let loaded := loadedFrom path document reports
      if (made.stands? path).isSome then (made, .ok loaded)
      else
        let (left, saved) := dumpTo yaml made path loaded.document
        (left, (saved.mapError .unsaved).map fun _ => loaded)

end SqlPrep.Files
