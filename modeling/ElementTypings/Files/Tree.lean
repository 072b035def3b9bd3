import ElementTypings.Files.Access
import ElementTypings.Path.Host

/-!
# A tree of files

A file system as a tree of directories and files, without links and without permissions. A path is
followed step by step: every step, also one that stays where it is and one that leads to the parent,
needs a directory to start from, so a path may pass only through directories that exist.
-/

namespace ElementTypings

/-- A place in the tree, as the names on the way from the root. -/
abbrev Place := List String

/-- What can be at a place. -/
inductive FileEntry where
  | directory
  | file (content : ByteArray)

instance : DecidableEq FileEntry
  | .directory, .directory => .isTrue rfl
  | .directory, .file _ => .isFalse nofun
  | .file _, .directory => .isFalse nofun
  | .file first, .file second =>
    match ByteArray.decEq first second with
    | .isTrue same => .isTrue (congrArg FileEntry.file same)
    | .isFalse different => .isFalse fun same => different (FileEntry.file.inj same)

/-- The files and directories below the root, and the place that relative paths start from. -/
structure FileTree where
  entries : List (Place × FileEntry)
  workingPlace : Place

namespace FileTree

/-- What is at a place; the root is a directory. -/
def at? (tree : FileTree) (place : Place) : Option FileEntry :=
  if place = [] then some .directory else tree.entries.lookup place

/-- The tree with an entry at a place, in the stead of what was there. -/
def put (tree : FileTree) (place : Place) (entry : FileEntry) : FileTree :=
  { tree with entries := (place, entry) :: tree.entries.filter fun other => other.1 ≠ place }

/-- The tree with nothing at a place. -/
def drop (tree : FileTree) (place : Place) : FileTree :=
  { tree with entries := tree.entries.filter fun other => other.1 ≠ place }

/-- The largest number of bytes in a name. -/
def longestName : Nat := 255

/-- The largest number of bytes in a path. -/
def longestPath : Nat := 4095

/-- The place that one step of a path leads to from a directory. -/
def step (tree : FileTree) (place : Place) (piece : List Char) : Option Place :=
  match tree.at? place with
  | some .directory =>
    if piece = [] ∨ piece = ['.'] then some place
    else if piece = ['.', '.'] then some place.dropLast
    else
      let name := String.ofList piece
      if longestName < name.utf8ByteSize then none else some (place ++ [name])
  | _ => none

/-- The place that a path leads to, at which there may be nothing. The empty path, a path that is
too long and a path with a null character lead nowhere. -/
def locate (tree : FileTree) (path : String) : Option Place :=
  if path = "" ∨ longestPath < path.utf8ByteSize ∨ '\x00' ∈ path.toList then none
  else
    (HostPath.pieces path).foldlM tree.step
      (if HostPath.isAbsolute path then [] else tree.workingPlace)

/-- What a path leads to. -/
def find? (tree : FileTree) (path : String) : Option FileEntry :=
  (tree.locate path).bind tree.at?

/-- Whether a path leads to something. -/
def hasEntry (tree : FileTree) (path : String) : Bool :=
  (tree.find? path).isSome

/-- Whether a path leads to a directory. -/
def isDirectory (tree : FileTree) (path : String) : Bool :=
  match tree.find? path with
  | some .directory => true
  | _ => false

/-- The bytes of a file. -/
def bytes? (tree : FileTree) (path : String) : Option ByteArray :=
  match tree.find? path with
  | some (.file content) => some content
  | _ => none

/-- What reading a file as text gives. -/
def read (tree : FileTree) (path : String) : Reading :=
  match tree.find? path with
  | none => .absent
  | some .directory => .unreadable
  | some (.file content) =>
    match String.fromUTF8? content with
    | some text => .text text
    | none => .unreadable

/-- Gives a file new bytes, or creates it in a directory that exists. -/
def writeBytes (tree : FileTree) (path : String) (content : ByteArray) : Option FileTree :=
  match tree.locate path with
  | none => none
  | some place =>
    match tree.at? place with
    | some .directory => none
    | _ => some (tree.put place (.file content))

/-- A path without the slashes at its end. -/
def trimSlashes (path : String) : String :=
  String.ofList (path.toList.reverse.dropWhile (· == '/')).reverse

/-- Creates a directory in a directory that exists. -/
def makeDirectory (tree : FileTree) (path : String) : Option FileTree :=
  match tree.locate (trimSlashes path) with
  | none => none
  | some place =>
    match tree.at? place with
    | some _ => none
    | none => some (tree.put place .directory)

/-- Creates a directory if it can be created, and answers whether it is there. -/
def ensureDirectory (tree : FileTree) (path : String) : Bool × FileTree :=
  match tree.makeDirectory path with
  | some tree => (true, tree)
  | none => (tree.isDirectory path, tree)

/-- A path and the paths above it, as far as its text names them. -/
def ancestry : (steps : Nat) → (path : String) → List String
  | 0, _ => []
  | steps + 1, path =>
    path ::
      match HostPath.parent path with
      | some parent => ancestry steps parent
      | none => []

/-- Creates the first of some directories, each of which is above the one before it, and those above
it that are missing. Where that fails, the directories created on the way stay. -/
def createAlong (tree : FileTree) : List String → Bool × FileTree
  | [] => (false, tree)
  | path :: above =>
    if path = "" then (true, tree)
    else
      match tree.ensureDirectory path with
      | (true, tree) => (true, tree)
      | (false, tree) =>
        match createAlong tree above with
        | (false, tree) => (false, tree)
        | (true, tree) => tree.ensureDirectory path

/-- Creates a directory and those above it that are missing. A path that is too long and a path with
a null character are refused before anything is created. -/
def createDirectories (tree : FileTree) (path : String) : Bool × FileTree :=
  if longestPath < path.utf8ByteSize ∨ '\x00' ∈ path.toList then (false, tree)
  else tree.createAlong (ancestry (path.length + 1) path)

/-- Deletes a file. -/
def remove (tree : FileTree) (path : String) : Option FileTree :=
  match tree.locate path with
  | none => none
  | some place =>
    match tree.at? place with
    | some (.file _) => some (tree.drop place)
    | _ => none

/-- The absolute path of a place. -/
def pathOf (place : Place) : String :=
  "/" ++ "/".intercalate place

instance : FileAccess (StateM FileTree) where
  workingDirectory := do return pathOf (← get).workingPlace
  read path := do return (← get).read path
  createDirectories path := modifyGet fun tree => tree.createDirectories path
  write path content := modifyGet fun tree =>
    match tree.writeBytes path content.toUTF8 with
    | some tree => (true, tree)
    | none => (false, tree)

end FileTree

end ElementTypings
