import SqlPrep.Text.Quoted

/-!
# File trees

A tree of files and directories, and the operations on it that settings need: making directories,
reading and writing files. A path is taken step by step, as it is written: a step up leads out of a
directory that is there, so nothing is found behind the name of a missing one, not even by going up
again. Permissions, links and the limits of a disk, such as that on the length of a name, are not
part of it.
-/

namespace SqlPrep.Files

/-- A step of a path: to an entry of a directory, or to the directory that it stands in. -/
inductive Step where
  | down (name : String)
  | up
  deriving DecidableEq

/-- The text of a step. -/
def Step.text : Step → String
  | .down name => name
  | .up => ".."

/-- Whether a step has a null character, which no name of a file has. -/
def Step.hasNull : Step → Bool
  | .down name => name.toList.contains '\x00'
  | .up => false

/-- The steps of a path from the root, in the order in which they are written. -/
abbrev Path := List Step

namespace Path

/-- The path that a text stands for. Empty components and those for the same directory are left
out. -/
def ofText (text : String) : Path :=
  let components := (text.splitOn "/").filter fun name => name != "" && name != "."
  components.map fun name => if name = ".." then .up else .down name

/-- The text of a path, relative to the root. -/
def text (path : Path) : String :=
  if path.isEmpty then "." else "/".intercalate (path.map Step.text)

/-- The path without its last step, which is all that the directory of a file is known by. The root
stands in itself. -/
def parent (path : Path) : Path :=
  path.dropLast

/-- Whether a path has a null character. -/
def hasNull (path : Path) : Bool :=
  path.any Step.hasNull

end Path

/-- What is in the way of an operation on files. -/
inductive Obstacle where
  | missing
  | exists
  | notDirectory
  | isDirectory
  deriving DecidableEq

/-- The number and wording of each obstacle. -/
def Obstacle.text : Obstacle → Nat × String
  | .missing => (2, "No such file or directory")
  | .exists => (17, "File exists")
  | .notDirectory => (20, "Not a directory")
  | .isDirectory => (21, "Is a directory")

/-- An operation that could not be done: for an obstacle at a path, or since its path has a null
character. -/
inductive FileError where
  | obstructed (obstacle : Obstacle) (path : Path)
  | null
  deriving DecidableEq

/-- The wording of the error, given the text of the root. -/
def FileError.message (root : String) : FileError → String
  | .obstructed obstacle path =>
    let (number, text) := obstacle.text
    let place := Text.quoted ("/".intercalate (root :: path.map Step.text))
    s!"[Errno {number}] {text}: {place}"
  | .null => "embedded null byte"

/-- A file, or a directory with its entries by name. -/
inductive Tree where
  | file (content : ByteArray)
  | directory (entries : List (String × Tree))
  deriving Inhabited

/-- What stands at a place of a tree. -/
inductive Entry where
  | directory
  | file (content : ByteArray)

/-- A place in a tree, by the names on the way from the root to it. -/
abbrev Place := List String

namespace Tree

/-- A directory without entries. -/
def empty : Tree := .directory []

/-- What a tree is by itself. -/
def kind : Tree → Entry
  | .file content => .file content
  | .directory _ => .directory

/-! ## Places -/

/-- The tree at a place. -/
def get? (tree : Tree) : Place → Option Tree
  | [] => some tree
  | name :: place =>
    match tree with
    | .file _ => none
    | .directory entries =>
      match entries.lookup name with
      | some t => t.get? place
      | none => none

/-- What stands at a place, if anything. -/
def found? (tree : Tree) (place : Place) : Option Entry :=
  (tree.get? place).map kind

/-- The entries of a directory with one of them assigned. -/
def putEntry : List (String × Tree) → String → Tree → List (String × Tree)
  | [], name, t => [(name, t)]
  | (n, old) :: rest, name, t =>
    if n = name then (n, t) :: rest else (n, old) :: putEntry rest name t

/-- The tree with the entries of the directory at a place changed. -/
def update (f : List (String × Tree) → List (String × Tree)) (tree : Tree) : Place → Tree
  | [] =>
    match tree with
    | .file content => .file content
    | .directory entries => .directory (f entries)
  | name :: place =>
    match tree with
    | .file content => .file content
    | .directory entries =>
      match entries.lookup name with
      | some t => .directory (putEntry entries name (t.update f place))
      | none => .directory entries

/-- The tree with an entry assigned in the directory at a place. -/
def putAt (tree : Tree) (place : Place) (name : String) (t : Tree) : Tree :=
  tree.update (putEntry · name t) place

/-- The tree without an entry of the directory at a place. -/
def removeAt (tree : Tree) (place : Place) (name : String) : Tree :=
  tree.update (·.filter (·.1 != name)) place

/-! ## Where paths lead -/

/-- The place to which one step leads from another. Any step, also one up, is taken out of a
directory, and one to a name leads to an entry that is there. The root stands in itself. -/
def enter (tree : Tree) (place : Place) (step : Step) : Except Obstacle Place :=
  match tree.found? place, step with
  | none, _ => .error .missing
  | some (.file _), _ => .error .notDirectory
  | some .directory, .up => .ok place.dropLast
  | some .directory, .down name =>
    if (tree.found? (place ++ [name])).isSome then .ok (place ++ [name]) else .error .missing

/-- The place to which a path leads. -/
def resolve (tree : Tree) (path : Path) : Except Obstacle Place :=
  path.foldlM tree.enter []

/-- What stands where a path leads, if it leads anywhere. -/
def stands? (tree : Tree) (path : Path) : Option Entry :=
  if path.hasNull then none
  else
    match tree.resolve path with
    | .ok place => tree.found? place
    | .error _ => none

/-- The directory and the name in it that a path ends in, whether or not there is such an entry. The
root and a path that ends in a step up are directories themselves, and end in no name. -/
def target (tree : Tree) (path : Path) : Except Obstacle (Option (Place × String)) :=
  match path.getLast? with
  | none => .ok none
  | some last => do
    let place ← tree.resolve path.parent
    match tree.found? place, last with
    | some .directory, .down name => .ok (some (place, name))
    | some .directory, .up => .ok none
    | some (.file _), _ => .error .notDirectory
    | none, _ => .error .missing

/-! ## Operations -/

/-- An operation at a path, with the path in its error. A path with a null character is refused
before anything is looked up. -/
def located (path : Path) (r : Except Obstacle α) : Except FileError α :=
  if path.hasNull then .error .null else r.mapError (.obstructed · path)

/-- The content of the file at a path. -/
def content (tree : Tree) (path : Path) : Except Obstacle ByteArray := do
  match tree.found? (← tree.resolve path) with
  | some (.file content) => .ok content
  | some .directory => .error .isDirectory
  | none => .error .missing

/-- Reads the file at a path. -/
def read (tree : Tree) (path : Path) : Except FileError ByteArray :=
  located path (tree.content path)

/-- The tree with a file at a path, whose directory has to be there. -/
def withFile (tree : Tree) (path : Path) (content : ByteArray) : Except Obstacle Tree := do
  match ← tree.target path with
  | none => .error .isDirectory
  | some (place, name) =>
    match tree.found? (place ++ [name]) with
    | some .directory => .error .isDirectory
    | _ => .ok (tree.putAt place name (.file content))

/-- Writes the file at a path. -/
def write (tree : Tree) (path : Path) (content : ByteArray) : Except FileError Tree :=
  located path (tree.withFile path content)

/-- The tree without the file at a path. -/
def withoutFile (tree : Tree) (path : Path) : Except Obstacle Tree := do
  match ← tree.target path with
  | none => .error .isDirectory
  | some (place, name) =>
    match tree.found? (place ++ [name]) with
    | some (.file _) => .ok (tree.removeAt place name)
    | some .directory => .error .isDirectory
    | none => .error .missing

/-- Removes the file at a path. -/
def remove (tree : Tree) (path : Path) : Except FileError Tree :=
  located path (tree.withoutFile path)

/-- The tree with a new directory at a path, whose own directory has to be there. -/
def withNewDirectory (tree : Tree) (path : Path) : Except Obstacle Tree := do
  match ← tree.target path with
  | none => .error .exists
  | some (place, name) =>
    match tree.found? (place ++ [name]) with
    | some _ => .error .exists
    | none => .ok (tree.putAt place name empty)

/-- The tree with a directory at a path, which may be there already. -/
def withDirectory (tree : Tree) (path : Path) : Except Obstacle Tree :=
  match tree.withNewDirectory path with
  | .ok made => .ok made
  | .error obstacle =>
    match tree.stands? path with
    | some .directory => .ok tree
    | _ => .error obstacle

/-- Makes the directory that given steps, the last one first, lead to. If the one that it stands in
is missing, that one is made first; what was made before a failure stays there. -/
def makeBackwards (tree : Tree) : List Step → Tree × Except FileError Unit
  | [] =>
    match tree.withDirectory [] with
    | .ok made => (made, .ok ())
    | .error obstacle => (tree, .error (.obstructed obstacle []))
  | step :: steps =>
    let path := (step :: steps).reverse
    match tree.withDirectory path with
    | .ok made => (made, .ok ())
    | .error .missing =>
      match tree.makeBackwards steps with
      | (made, .error e) => (made, .error e)
      | (made, .ok ()) =>
        match made.withDirectory path with
        | .ok again => (again, .ok ())
        | .error obstacle => (made, .error (.obstructed obstacle path))
    | .error obstacle => (tree, .error (.obstructed obstacle path))

/-- Makes the directory at a path and those that it stands in, as far as they are missing. Each is
made as it is written, so a missing directory is made even if the next step leads out of it. -/
def makeDirectory (tree : Tree) (path : Path) : Tree × Except FileError Unit :=
  if path.hasNull then (tree, .error .null) else tree.makeBackwards path.reverse

/-! ## Listing -/

mutual

/-- The paths of all that is in a tree at a path, those of directories ending in a slash. -/
def listing (path : String) : Tree → List String
  | .file _ => [path]
  | .directory entries => (path ++ "/") :: listingEntries (path ++ "/") entries

/-- The paths of all that is in the entries of a directory. -/
def listingEntries (start : String) : List (String × Tree) → List String
  | [] => []
  | (name, t) :: rest => listing (start ++ name) t ++ listingEntries start rest

end

/-- The paths of all that is in a tree, in the order of their texts. -/
def paths (tree : Tree) : List String :=
  let all := match tree with
    | .file _ => []
    | .directory entries => listingEntries "" entries
  all.mergeSort fun a b => !decide (b < a)

end Tree
end SqlPrep.Files
