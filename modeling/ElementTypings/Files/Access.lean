import ElementTypings.Path.Host

/-!
# What the commands ask of a file system

The commands read text files, create directories and write text files, and do nothing else. They
are written against this interface, so that one text of a command runs on the files of the host and
on a tree of files in memory.

An artifact is a text that a command has made and the path it belongs at. Writing an artifact leaves
a file alone that holds the text already, so that a repeated run touches nothing. A file that cannot
be read is not replaced.
-/

namespace ElementTypings

/-- What reading a file as text gives. -/
inductive Reading where
  /-- There is nothing of that name. -/
  | absent
  /-- There is something, but not a file of text. -/
  | unreadable
  /-- The text of the file. -/
  | text (content : String)
deriving DecidableEq, Repr

/-- A way to reach files. -/
class FileAccess (m : Type → Type) where
  /-- The absolute path of the directory that relative paths start from. -/
  workingDirectory : m String
  /-- Reads a file. -/
  read : String → m Reading
  /-- Creates a directory and those above it, unless they are there; answers whether they are
  now. -/
  createDirectories : String → m Bool
  /-- Gives a file a new text, or creates it; answers whether that could be done. -/
  write : String → String → m Bool

/-- A text and where it belongs. -/
structure Artifact where
  path : String
  content : String
deriving DecidableEq, Repr

/-- What writing an artifact did. -/
inductive WriteOutcome where
  | written
  /-- The file held the text already. -/
  | unchanged
deriving DecidableEq, Repr

/-- Why an artifact was not written. -/
inductive WriteFailure where
  /-- There is something at the path that is no file of text. -/
  | unreadable (path : String)
  /-- The directory of the path cannot be created. -/
  | noDirectory (directory : String)
  /-- The file cannot be written. -/
  | unwritable (path : String)
deriving DecidableEq, Repr

namespace WriteFailure

/-- The message that reports the failure. -/
def message : WriteFailure → String
  | unreadable path => "failed to read '" ++ path ++ "'"
  | noDirectory directory => "failed to create '" ++ directory ++ "'"
  | unwritable path => "failed to write '" ++ path ++ "'"

end WriteFailure

namespace Artifact

variable {m : Type → Type} [Monad m] [FileAccess m]

/-- Writes the artifact, whatever the file holds. -/
def persist (artifact : Artifact) : m (Except WriteFailure WriteOutcome) := do
  match HostPath.parent artifact.path with
  | none => finish
  | some directory =>
    if ← FileAccess.createDirectories directory then finish
    else return .error (.noDirectory directory)
where
  finish : m (Except WriteFailure WriteOutcome) := do
    if ← FileAccess.write artifact.path artifact.content then return .ok .written
    else return .error (.unwritable artifact.path)

/-- Writes the artifact unless the file holds its text. -/
def write (artifact : Artifact) : m (Except WriteFailure WriteOutcome) := do
  match ← FileAccess.read artifact.path with
  | .unreadable => return .error (.unreadable artifact.path)
  | .text current =>
    if current = artifact.content then return .ok .unchanged else artifact.persist
  | .absent => artifact.persist

end Artifact

end ElementTypings
