import ElementTypings.Text.Split

/-!
# Lexical paths

Components are identified by paths that were recorded on some machine, so a path is read as text
and the file system is never asked. A backslash separates segments as a slash does, and a drive
(`C:/`) starts an absolute path as a slash does; the letter of a drive counts in lower case.

A path is its root and the segments that remain after a walk from left to right, in which an empty
segment and `.` stay where they are and `..` leaves the last segment. The walk never leaves the
root of an absolute path; a relative path keeps the `..` that it cannot resolve. `LexicalPath.text`
writes a path back, and `normalize` is the text of the path that was read.

A declaration document stands in the source root and imports modules of the project by a path
relative to that root, without the extension of a TypeScript file.
-/

namespace ElementTypings

/-- One step of a path, between two separators. -/
abbrev Segment := List Char

/-- Where a path starts. -/
inductive PathRoot where
  /-- A relative path starts wherever its reader stands. -/
  | relative
  /-- The root of all files. -/
  | slash
  /-- The root of a drive, named by a lower case letter. -/
  | drive (letter : Char)
deriving DecidableEq, Repr

namespace PathRoot

/-- Whether a path with this root is absolute. -/
def isAbsolute (root : PathRoot) : Bool :=
  root != relative

/-- The root as a path begins with it. -/
def text : PathRoot → List Char
  | relative => []
  | slash => ['/']
  | drive letter => [letter, ':', '/']

/-- The root of a path and what follows it. -/
def split : List Char → PathRoot × List Char
  | '/' :: rest => (slash, rest)
  | letter :: ':' :: '/' :: rest =>
    if letter.isAlpha then (drive letter.toLower, rest)
    else (relative, letter :: ':' :: '/' :: rest)
  | path => (relative, path)

end PathRoot

/-- A path as its root and the segments below it, from left to right. -/
structure LexicalPath where
  root : PathRoot
  segments : List Segment
deriving DecidableEq, Repr

namespace LexicalPath

/-- The segment that stays where it is. -/
def here : Segment := ['.']

/-- The segment that leaves the one before it. -/
def up : Segment := ['.', '.']

/-- The path with every backslash turned into a slash. -/
def slashes (path : List Char) : List Char :=
  path.map fun char => if char = '\\' then '/' else char

/-- One step of a walk; the segments walked so far are listed from the last to the first. -/
def enter (absolute : Bool) (walked : List Segment) (segment : Segment) : List Segment :=
  if segment = [] ∨ segment = here then walked
  else if segment = up then
    match walked with
    | [] => if absolute then [] else [up]
    | last :: earlier =>
      if last = up then (if absolute then walked else up :: walked) else earlier
  else segment :: walked

/-- The path that a text stands for. -/
def ofText (text : List Char) : LexicalPath :=
  let (root, rest) := PathRoot.split (slashes text)
  { root, segments := ((Text.splitOn '/' rest).foldl (enter root.isAbsolute) []).reverse }

/-- The text of a path; a relative path without segments is written `.`. -/
def text (path : LexicalPath) : List Char :=
  if path.root = .relative ∧ path.segments = [] then here
  else path.root.text ++ List.intercalate ['/'] path.segments

/-- The normal form of the text of a path. -/
def normalize (path : List Char) : List Char :=
  (ofText path).text

/-- Whether a text names an absolute path. -/
def isAbsoluteText (path : List Char) : Bool :=
  (PathRoot.split (slashes path)).1.isAbsolute

/-- The segments of a normal form, the letter of a drive among them. -/
def steps (path : List Char) : List Segment :=
  (Text.splitOn '/' path).filter (· ≠ [])

/-- The number of leading segments that two lists share. -/
def commonLength : List Segment → List Segment → Nat
  | first :: first', second :: second' =>
    if first = second then commonLength first' second' + 1 else 0
  | _, _ => 0

/-- The way from one list of segments to another: up to the last segment they share, then down. -/
def route (source target : List Segment) : List Segment :=
  let shared := commonLength source target
  List.replicate (source.length - shared) up ++ target.drop shared

/-- The directory of a normal form: the text before the last slash, the root included. -/
def directoryText (normal : List Char) : List Char :=
  let rootLength := (PathRoot.split normal).1.text.length
  let name := normal.reverse.takeWhile (· ≠ '/')
  if name.length = normal.length then here
  else normal.take (max rootLength (normal.length - name.length - 1))

end LexicalPath

/-- The one way in which a lexical operation fails. -/
inductive PathError where
  /-- An absolute path was needed, and this one is not. -/
  | notAbsolute (path : String)
deriving DecidableEq, Repr

namespace PathError

/-- The message that reports the failure. -/
def message : PathError → String
  | notAbsolute path => "expected an absolute path, got '" ++ path ++ "'"

end PathError

namespace LexicalPath

/-- Whether the path is absolute. -/
def isAbsolute (path : String) : Bool :=
  isAbsoluteText path.toList

/-- The segment joined to the base, in normal form; an empty base adds nothing. -/
def join (base segment : String) : String :=
  if base = "" then String.ofList (normalize segment.toList)
  else String.ofList (normalize (base.toList ++ '/' :: segment.toList))

/-- The path as seen from an absolute base, in normal form; an absolute path leaves the base
aside. -/
def resolve (base path : String) : Except PathError String :=
  if isAbsolute path then .ok (String.ofList (normalize path.toList))
  else if isAbsolute base then
    .ok (String.ofList (normalize (base.toList ++ '/' :: path.toList)))
  else .error (.notAbsolute base)

/-- The way from the directory `source` to `target`, both absolute. -/
def relative (source target : String) : Except PathError String :=
  if !isAbsolute source then .error (.notAbsolute source)
  else if !isAbsolute target then .error (.notAbsolute target)
  else
    .ok (String.ofList (List.intercalate ['/']
      (route (steps (normalize source.toList)) (steps (normalize target.toList)))))

/-- The directory of the path. -/
def directory (path : String) : String :=
  String.ofList (directoryText (normalize path.toList))

end LexicalPath

namespace ModuleSpecifier

/-- The path without one trailing `.tsx` or `.ts`. -/
def stripExtension (path : String) : String :=
  match path.toList.reverse with
  | 'x' :: 's' :: 't' :: '.' :: stem => String.ofList stem.reverse
  | 's' :: 't' :: '.' :: stem => String.ofList stem.reverse
  | _ => path

/-- The specifier of a file, which must be absolute, as a module of the source root imports it. -/
def ofFile (sourceRoot file : String) : Except PathError String := do
  let specifier := stripExtension (← LexicalPath.relative sourceRoot file)
  if "../".toList.isPrefixOf specifier.toList then pure specifier else pure ("./" ++ specifier)

/-- The specifier of an import source: an absolute path is a file of the project, and any other
source is the name of a package and is imported by that name. -/
def ofSource (sourceRoot source : String) : Except PathError String :=
  if LexicalPath.isAbsolute source then ofFile sourceRoot source else .ok source

end ModuleSpecifier

end ElementTypings
