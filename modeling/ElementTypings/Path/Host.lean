import ElementTypings.Text.Split

/-!
# Paths of the host

The commands read and write files on a host whose separator is the slash and whose only root is
`/`. Here a path keeps the spelling it was given: joining two paths inserts a slash where one is
missing and changes nothing else.
-/

namespace ElementTypings.HostPath

/-- Whether the host takes the path to be absolute. -/
def isAbsolute (path : String) : Bool :=
  path.toList.head? == some '/'

/-- The path below a base; an absolute path leaves the base aside. -/
def join (base path : String) : String :=
  if isAbsolute path then path
  else if base = "" || base.toList.getLast? == some '/' then base ++ path
  else base ++ "/" ++ path

/-- The pieces of a path between its slashes, empty ones included. -/
def pieces (path : String) : List (List Char) :=
  Text.splitOn '/' path.toList

/-- The path that consists of the given pieces. -/
def ofPieces (parts : List (List Char)) : String :=
  String.ofList (List.intercalate ['/'] parts)

/-- Whether a piece is a step of the path: an empty piece is none, and `.` is one only where a
relative path starts with it. -/
def isStep (first : Bool) (piece : List Char) : Bool :=
  piece ≠ [] && (first || piece ≠ ['.'])

/-- The leading pieces of a list up to the last one that is a step, listed backwards; `parts` is
the list read backwards, and its last element is the first piece of the path. -/
def upToStep : (parts : List (List Char)) → List (List Char)
  | [] => []
  | piece :: earlier => if isStep earlier.isEmpty piece then piece :: earlier else upToStep earlier

/-- The path without its last step, or nothing for a path that has no step. -/
def parent (path : String) : Option String :=
  match upToStep (pieces path).reverse with
  | [] => none
  | _ :: earlier =>
    match upToStep earlier with
    | [] => some (if isAbsolute path then "/" else "")
    | steps => some (ofPieces steps.reverse)

/-- The steps of a path, without the `.` that a relative path may start with. -/
def steps (path : String) : List (List Char) :=
  (pieces path).filter fun piece => piece ≠ [] && piece ≠ ['.']

/-- The absolute spelling of a path below the working directory: steps that stay where they are
are dropped, steps to the parent are kept, and so is a slash at the end. Two leading slashes, and
no more, are kept as well. -/
def absolute (workingDirectory path : String) : String :=
  let start :=
    if !isAbsolute path then workingDirectory
    else
      match path.toList with
      | '/' :: '/' :: '/' :: _ => "/"
      | '/' :: '/' :: _ => "//"
      | _ => "/"
  let reached := (steps path).foldl (fun base step => join base (String.ofList step)) start
  if path.toList.getLast? == some '/' then join reached "" else reached

end ElementTypings.HostPath
