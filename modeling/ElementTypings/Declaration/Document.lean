import ElementTypings.Declaration.Syntax

/-!
# The sections of a declaration document

A document lists its sections in a fixed order: the header comment, one section for every
collection, one for all type imports together, and one for every block. A blank line is written
before a section whenever text has been written already.
-/

namespace ElementTypings

/-- The parts of a declaration document. -/
structure Document where
  /-- The lines of the header comment. -/
  header : List String
  /-- The imports of collections, each a section. -/
  collections : List ImportStatement
  /-- The type imports, which are one section. -/
  imports : List ImportStatement
  /-- The blocks, each a section. -/
  blocks : List (List Fragment)

namespace Document

/-- Whether the document has no part. -/
def isEmpty (document : Document) : Bool :=
  document.header.isEmpty && document.collections.isEmpty && document.imports.isEmpty &&
    document.blocks.isEmpty

/-- The sections of the document, in order. -/
def sections (document : Document) : List (List Fragment) :=
  (if document.header.isEmpty then [] else [[Fragment.comment document.header]]) ++
    document.collections.map ImportStatement.fragments ++
    (if document.imports.isEmpty then [] else
      [document.imports.flatMap ImportStatement.fragments]) ++
    document.blocks

/-- Writes one more section. -/
def addSection (builder : Builder) (content : List Fragment) : Builder :=
  (if builder.isEmpty then builder else builder.blank).fragments content

/-- The text of the document. -/
def render (document : Document) (indent : Indent) : String :=
  (document.sections.foldl addSection (Builder.new indent)).text

end Document

end ElementTypings
