import ImportGuard.Toml.Lexeme
import ImportGuard.Value

namespace ImportGuard.Toml

/-- Changes the table under a key, which is made if it is not there. Where `last` allows it, a list
stands for the last table in it. -/
def modifyAt (last : Bool) (change : Table → Option Table) : Key → Table → Option Table
  | [], t => change t
  | name :: rest, t =>
    match t.get? name with
    | none => do return t.insert (.text name) (.table (← modifyAt last change rest []))
    | some (.table inner) => do
      return t.insert (.text name) (.table (← modifyAt last change rest inner))
    | some (.list items) =>
      match last, items.getLast? with
      | true, some (.table inner) => do
        let inner ← modifyAt last change rest inner
        return t.insert (.text name) (.list (items.dropLast ++ [.table inner]))
      | _, _ => none
    | some _ => none

/-- Adds a key that is not there yet. -/
def addNew (name : String) (value : Value) (t : Table) : Option Table :=
  if (t.get? name).isSome then none else some (t.insert (.text name) value)

/-- Adds an empty table to the list under a name, which is made if it is not there. -/
def addItem (name : String) (t : Table) : Option Table :=
  match t.get? name with
  | none => some (t.insert (.text name) (.list [.table []]))
  | some (.list items) => some (t.insert (.text name) (.list (items ++ [.table []])))
  | some _ => none

/-- A configuration table while it is being read, with the marks that say which parts of it are
closed. -/
structure Draft where
  data : Table := []
  /-- The keys whose tables have been opened and cannot be opened again. -/
  opened : List Key := []
  /-- The keys that become opened at the next header. -/
  opening : List Key := []
  /-- The keys of values that cannot be added to, nor anything below them. -/
  sealed : List Key := []
  /-- The key of the current header. -/
  header : Key := []

namespace Draft

def isSealed (d : Draft) (key : Key) : Bool := d.sealed.any (·.isPrefixOf key)

def isOpened (d : Draft) (key : Key) : Bool := d.opened.contains key

/-- Marks the tables of dotted keys as opened. -/
def settle (d : Draft) : Draft := { d with opened := d.opened ++ d.opening, opening := [] }

/-- Begins the table under a key. -/
def openTable (d : Draft) (key : Key) : Option Draft :=
  if d.isOpened key || d.isSealed key then none
  else do
    let data ← modifyAt true some key d.data
    return { d with data, opened := key :: d.opened, header := key }

/-- Begins one more table of the list under a key; what is below it is free again. -/
def openItem (d : Draft) (key : Key) : Option Draft :=
  if d.isSealed key then none
  else do
    let data ← modifyAt true (addItem (key.getLastD "")) key.dropLast d.data
    return { d with
      data
      opened := key :: d.opened.filter fun k => !key.isPrefixOf k
      sealed := d.sealed.filter fun k => !key.isPrefixOf k
      header := key }

/-- The keys of the tables on the way to the last part of a dotted key. -/
def onTheWay (header key : Key) : List Key :=
  (List.range (key.length - 1)).map fun i => header ++ key.take (i + 1)

private def isCompound : Value → Bool
  | .list _ | .table _ => true
  | _ => false

/-- Adds a value under a key of the current table. -/
def add (d : Draft) (key : Key) (value : Value) : Option Draft :=
  let way := onTheWay d.header key
  if way.any d.isOpened || d.isSealed (d.header ++ key.dropLast) then none
  else do
    let data ← modifyAt true (addNew (key.getLastD "") value) (d.header ++ key.dropLast) d.data
    return { d with
      data
      opening := d.opening ++ way
      sealed := if isCompound value then (d.header ++ key) :: d.sealed else d.sealed }

/-- Adds a value to a table on one line. Only tables made there by dotted keys can be added to. -/
def addInline (d : Draft) (key : Key) (value : Value) : Option Draft :=
  if d.isSealed key then none
  else do
    let data ← modifyAt false (addNew (key.getLastD "") value) key.dropLast d.data
    return { d with data, sealed := if isCompound value then key :: d.sealed else d.sealed }

end Draft

end ImportGuard.Toml
