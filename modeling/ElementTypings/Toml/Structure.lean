import ElementTypings.Toml.Value

/-!
# Building the tables of a document

A header opens a table, and a line below it adds an entry; both may name a way through several
tables. A table is opened by at most one header, a value between braces is closed to additions, and
dotted keys add only to tables that dotted keys have made.
-/

namespace ElementTypings.Toml

/-- The outcome of a change to the tables, or the fault it would make. -/
abbrev Change := Except Fault

namespace Table

/-- A change to a table and its kind. -/
abbrev Action := TableKind → Table → Change (TableKind × Table)

/-- Applies an action to a table that is a value. -/
def within (action : Action) : Value → Change Value
  | .table kind entries => do
    let (kind, entries) ← action kind entries
    return .table kind entries
  | _ => .error .extendedValue

/-- Applies an action to the last of the tables of a repeated header. -/
def withinLast (action : Value → Change Value) :
    List (Located Value) → Change (List (Located Value))
  | [] => .error .extendedValue
  | [last] => do return [{ last with item := ← action last.item }]
  | first :: later => do return first :: (← withinLast action later)

/-- Applies an action to the table at the end of a path. A step that leads nowhere makes a table of
the kind that such steps make; of the tables of a repeated header the last one is meant. A dotted
path leads only through tables without a header of their own. -/
def descend (made : TableKind) (action : Action) : List (Located String) → Action
  | [], kind, table => action kind table
  | key :: path, kind, table =>
    match table.find? key.item with
    | none => do
      let (inner, entries) ← descend made action path made []
      return (kind, table.add key { span := key.span, item := .table inner entries })
    | some found =>
      match found.item with
      | .table .braced _ => .error .extendedValue
      | .table .explicit entries => do
        if made = .dotted then throw .duplicateKey
        let (inner, entries) ← descend made action path .explicit entries
        return (kind, table.replace key.item { found with item := .table inner entries })
      | .table inner entries => do
        let (inner, entries) ← descend made action path inner entries
        return (kind, table.replace key.item { found with item := .table inner entries })
      | .tables items => do
        let items ← withinLast (within (descend made action path)) items
        return (kind, table.replace key.item { found with item := .tables items })
      | _ => .error .extendedValue

/-- Adds an entry; a dotted key adds to a table that dotted keys have made, and to no other. -/
def addEntry (byDottedKey : Bool) (key : Located String) (value : Located Value) : Action :=
  fun kind table =>
    if (kind = .dotted) ≠ (byDottedKey = true) then .error .duplicateKey
    else
      match table.find? key.item with
      | some _ => .error .duplicateKey
      | none => .ok (kind, table.add key value)

/-- Adds an entry under a key that may be dotted. -/
def assign (key : List (Located String)) (value : Located Value) : Action :=
  match key.reverse with
  | [] => fun kind table => .ok (kind, table)
  | last :: before =>
    descend .dotted (addEntry (!before.isEmpty) last value) before.reverse

/-- Opens the table of a header, which has not been opened before. -/
def openTable (key : Located String) (span : Span) : Action := fun kind table =>
  match table.find? key.item with
  | none => .ok (kind, table.add key { span, item := .table .explicit [] })
  | some { item := .table .implied entries, .. } =>
    .ok (kind, table.replace key.item { span, item := .table .explicit entries })
  | some _ => .error .duplicateKey

/-- Opens another table of a repeated header. -/
def openAnother (key : Located String) (span : Span) : Action := fun kind table =>
  let opened : Located Value := { span, item := .table .explicit [] }
  match table.find? key.item with
  | none => .ok (kind, table.add key { span, item := .tables [opened] })
  | some { span := first, item := .tables items } =>
    .ok (kind, table.replace key.item { span := first, item := .tables (items ++ [opened]) })
  | some _ => .error .duplicateKey

/-- Opens a table of a header that names a way to it. -/
def openAt (repeated : Bool) (path : List (Located String)) (span : Span) : Action :=
  match path.reverse with
  | [] => fun kind table => .ok (kind, table)
  | last :: before =>
    descend .implied (if repeated then openAnother last span else openTable last span)
      before.reverse

end Table

end ElementTypings.Toml
