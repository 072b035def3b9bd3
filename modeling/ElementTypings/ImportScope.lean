import ElementTypings.OrderedMap

/-!
# The names of the shared scope

All imports of a document bind their names in one scope. A symbol keeps its own name while that is
free; a symbol of the same name from another source gets the name with the least suffix, from `2`
on, that makes it free. Names that the document declares itself are reserved beforehand.

For every name the scope counts the suffixes tried so far, so that a search need not start again;
`freeSuffix` looks at no more candidates than there are taken names and one.
-/

namespace ElementTypings

/-- A symbol imported into the scope. -/
structure ImportBinding where
  /-- The name that the source exports. -/
  name : String
  /-- The name that the scope knows it by. -/
  bound : String
deriving DecidableEq, Repr

namespace ImportBinding

/-- Whether the symbol is known by a name other than its own. -/
def isRenamed (binding : ImportBinding) : Bool :=
  binding.name != binding.bound

end ImportBinding

/-- The names that are in use, and the imports that bind them. -/
structure ImportScope where
  /-- How often a name has been asked for: the last suffix that was tried. -/
  counters : OrderedMap Nat
  /-- The names that are bound or reserved. -/
  taken : List String
  /-- The symbols imported from every source, in the order of first use. -/
  groups : OrderedMap (List ImportBinding)
deriving DecidableEq

namespace ImportScope

/-- The scope in which every name is free. -/
def empty : ImportScope :=
  { counters := ∅, taken := [], groups := ∅ }

instance : Inhabited ImportScope := ⟨empty⟩

/-- The name with a suffix. -/
def suffixed (name : String) (suffix : Nat) : String :=
  name ++ toString suffix

/-- The first suffix after the counter whose name is not taken, among so many candidates. -/
def freeSuffix (taken : List String) (name : String) : (candidates counter : Nat) → Nat
  | 0, counter => counter + 1
  | candidates + 1, counter =>
    if suffixed name (counter + 1) ∈ taken then freeSuffix taken name candidates (counter + 1)
    else counter + 1

/-- The name to bind a symbol to, and the count to keep for the symbol's own name. -/
def freeName (scope : ImportScope) (name : String) : String × Nat :=
  let counter := (scope.counters.lookup? name).getD 0
  if counter = 0 ∧ name ∉ scope.taken then (name, 1)
  else
    let suffix := freeSuffix scope.taken name (scope.taken.length + 1) (max counter 1)
    (suffixed name suffix, suffix)

/-- The symbols imported from a source. -/
def group? (scope : ImportScope) (source : String) : Option (List ImportBinding) :=
  scope.groups.lookup? source

/-- The binding of a symbol of a source, if it has one. -/
def binding? (scope : ImportScope) (source name : String) : Option ImportBinding :=
  (scope.group? source).bind fun group => group.find? fun binding => binding.name == name

/-- Imports a symbol of a source and answers the name it is bound to. A symbol that has been
imported before keeps its name. -/
def bind (scope : ImportScope) (source name : String) : String × ImportScope :=
  match scope.binding? source name with
  | some binding => (binding.bound, scope)
  | none =>
    let (bound, count) := scope.freeName name
    (bound,
      { counters := scope.counters.insert name count
        taken := bound :: scope.taken
        groups := scope.groups.insert source
          ((scope.group? source).getD [] ++ [{ name, bound }]) })

/-- Takes a name for a declaration that no import makes. -/
def reserve (scope : ImportScope) (name : String) : ImportScope :=
  { scope with taken := if name ∈ scope.taken then scope.taken else name :: scope.taken }

/-- All bindings, source by source. -/
def bindings (scope : ImportScope) : List ImportBinding :=
  scope.groups.values.flatten

/-- Whether nothing is imported. -/
def isEmpty (scope : ImportScope) : Bool :=
  scope.groups.isEmpty

end ImportScope

end ElementTypings
