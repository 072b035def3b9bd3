/-!
# The layout of code

A declaration describes its text as a tree of fragments and leaves the indentation to the builder
that writes it. Only a block indents what it holds; a blank line is never indented. A builder holds
the text written so far and the level at which the next line starts. Writing a fragment only appends
to the text and leaves the level where it was.
-/

namespace ElementTypings

/-- A piece of code. -/
inductive Fragment where
  /-- One line, without its line end. -/
  | line (text : String)
  /-- An empty line. -/
  | blank
  /-- A header line, a body one level deeper, and a closing line if there is one. -/
  | block (header : String) (body : List Fragment) (close : Option String)
  /-- Fragments one after another, at the same depth. -/
  | sequence (items : List Fragment)
  /-- A documentation comment, one line of text for each of its lines. -/
  | comment (lines : List String)

namespace Fragment

/-- A block that a brace closes. -/
def braced (header : String) (body : List Fragment) : Fragment :=
  block header body (some "\x7d")

/-- One line of text inside a documentation comment. -/
def commentLine (text : String) : String :=
  if text = "" then " *" else " * " ++ text

/-- The lines of a documentation comment, the delimiters included. -/
def commentLines (lines : List String) : List String :=
  "/**" :: lines.map commentLine ++ [" */"]

end Fragment

/-- What one level of indentation is made of. -/
inductive Indent where
  /-- So many spaces, which a writer of declarations supports for 2, 4 and 8. -/
  | spaces (width : Nat)
  /-- One tab. -/
  | tab
deriving DecidableEq, Repr

namespace Indent

/-- The indentation of a declaration document. -/
def standard : Indent := spaces 2

/-- One level of indentation; a width that is not supported counts as 4. -/
def unit : Indent → String
  | spaces 2 => "  "
  | spaces 8 => "        "
  | spaces _ => "    "
  | tab => "\t"

/-- The indentation of a line at the given level. -/
def leading (indent : Indent) : (level : Nat) → String
  | 0 => ""
  | level + 1 => indent.unit ++ leading indent level

end Indent

/-- The text written so far and the level of the next line. -/
structure Builder where
  indent : Indent
  level : Nat
  text : String
deriving DecidableEq, Repr

namespace Builder

/-- A builder that has written nothing. -/
def new (indent : Indent) : Builder :=
  { indent, level := 0, text := "" }

/-- Whether nothing has been written. -/
def isEmpty (builder : Builder) : Bool :=
  builder.text == ""

/-- Writes one line at the current level. -/
def line (builder : Builder) (text : String) : Builder :=
  { builder with text := builder.text ++ builder.indent.leading builder.level ++ text ++ "\n" }

/-- Writes an empty line. -/
def blank (builder : Builder) : Builder :=
  { builder with text := builder.text ++ "\n" }

/-- Starts the next line one level deeper. -/
def deeper (builder : Builder) : Builder :=
  { builder with level := builder.level + 1 }

/-- Starts the next line one level less deep, if there is one. -/
def shallower (builder : Builder) : Builder :=
  { builder with level := builder.level - 1 }

/-- Writes several lines at the current level. -/
def lines (builder : Builder) (texts : List String) : Builder :=
  texts.foldl line builder

/-- Writes a documentation comment. -/
def comment (builder : Builder) (texts : List String) : Builder :=
  builder.lines (Fragment.commentLines texts)

mutual

/-- Writes one fragment. -/
def fragment (builder : Builder) : Fragment → Builder
  | .line text => builder.line text
  | .blank => builder.blank
  | .block header body close =>
    let inner := (fragments (builder.line header).deeper body).shallower
    match close with
    | some text => inner.line text
    | none => inner
  | .sequence items => fragments builder items
  | .comment texts => builder.comment texts

/-- Writes fragments one after another. -/
def fragments (builder : Builder) : List Fragment → Builder
  | [] => builder
  | first :: later => fragments (builder.fragment first) later

end

end Builder

namespace Fragment

/-- The text of fragments that stand alone. -/
def render (indent : Indent) (items : List Fragment) : String :=
  ((Builder.new indent).fragments items).text

end Fragment

end ElementTypings
