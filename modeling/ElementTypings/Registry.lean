import ElementTypings.Component

/-!
# The registry of components

The result of scanning a project: for every file that was scanned, the component it declares or
none. The order of the scan means nothing, so whoever goes through the components takes them in the
order of their files' names.
-/

namespace ElementTypings

/-- Scanned files, each with the component it declares. -/
structure Registry where
  files : OrderedMap (Option Component)
deriving DecidableEq

namespace Registry

/-- The registry of no file. -/
def empty : Registry :=
  ⟨∅⟩

/-- The registry with the result of scanning a file; a later scan replaces an earlier one. -/
def insert (registry : Registry) (file : String) (component : Option Component) : Registry :=
  ⟨registry.files.insert file component⟩

/-- The files that declare a component, with the component. -/
def present (registry : Registry) : List (String × Component) :=
  registry.files.entries.filterMap fun entry => entry.2.map fun component => (entry.1, component)

/-- The components in the order of their files' names, which is that of the scalar values. -/
def ordered (registry : Registry) : List Component :=
  (registry.present.mergeSort fun left right => decide (left.1 ≤ right.1)).map Prod.snd

/-- The number of scanned files. -/
def size (registry : Registry) : Nat :=
  registry.files.size

/-- Whether no file was scanned. -/
def isEmpty (registry : Registry) : Bool :=
  registry.files.isEmpty

/-- The number of components. -/
def componentCount (registry : Registry) : Nat :=
  registry.present.length

/-- A tag that two files use. -/
structure DuplicateTag where
  tag : String
  /-- The file that used the tag first. -/
  first : String
  /-- The file that used it again. -/
  second : String
deriving DecidableEq, Repr

/-- The first of some files whose component repeats a tag, either one of `seen`, which lists tags
with their files, or that of an earlier file. -/
def duplicateAmong (seen : List (String × String)) :
    List (String × Component) → Option DuplicateTag
  | [] => none
  | (file, component) :: later =>
    match seen.lookup component.tagName with
    | some first => some { tag := component.tagName, first, second := file }
    | none => duplicateAmong ((component.tagName, file) :: seen) later

/-- The first file, in the order of the scan, whose component repeats a tag. -/
def duplicateTag? (registry : Registry) : Option DuplicateTag :=
  duplicateAmong [] registry.present

end Registry

end ElementTypings
