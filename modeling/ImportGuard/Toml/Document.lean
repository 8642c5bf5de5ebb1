import ImportGuard.Toml.Draft
import ImportGuard.Toml.Scalar

namespace ImportGuard.Toml

mutual

/-- Reads a value. -/
def value : Nat → List Char → Option (Value × List Char)
  | 0, _ => none
  | fuel + 1, cs =>
    match cs with
    | '[' :: rest => do
      match ← skipVoid false rest with
      | ']' :: rest => return (.list [], rest)
      | rest =>
        let (items, rest) ← listItems fuel rest
        return (.list items, rest)
    | '\x7b' :: rest =>
      match skipSpace rest with
      | '\x7d' :: rest => some (.table [], rest)
      | rest => do
        let (d, rest) ← inlinePairs fuel {} rest
        return (.table d.data, rest)
    | cs =>
      match quotedText? cs with
      | some read => read.map fun (text, rest) => (.text text, rest)
      | none => scalar cs

/-- The items of a list up to its closing bracket; a comma may follow the last one. -/
def listItems : Nat → List Char → Option (List Value × List Char)
  | 0, _ => none
  | fuel + 1, cs => do
    let (item, rest) ← value fuel cs
    match ← skipVoid false rest with
    | ']' :: rest => return ([item], rest)
    | ',' :: rest =>
      match ← skipVoid false rest with
      | ']' :: rest => return ([item], rest)
      | rest =>
        let (items, rest) ← listItems fuel rest
        return (item :: items, rest)
    | _ => none

/-- The pairs of a table on one line up to its closing brace; no comma may follow the last one. -/
def inlinePairs : Nat → Draft → List Char → Option (Draft × List Char)
  | 0, _, _ => none
  | fuel + 1, d, cs => do
    let (path, rest) ← key cs.length cs
    let (v, rest) ← value fuel (skipSpace (← mark '=' rest))
    let d ← d.addInline path v
    match skipSpace rest with
    | '\x7d' :: rest => return (d, rest)
    | ',' :: rest => inlinePairs fuel d (skipSpace rest)
    | _ => none

end

/-- A table header after its opening bracket. -/
def tableHeader (d : Draft) (cs : List Char) : Option (Draft × List Char) := do
  let (path, rest) ← key cs.length (skipSpace cs)
  return (← d.openTable path, ← mark ']' rest)

/-- A header of a list of tables after its two opening brackets. -/
def itemHeader (d : Draft) (cs : List Char) : Option (Draft × List Char) := do
  let (path, rest) ← key cs.length (skipSpace cs)
  return (← d.openItem path, ← mark ']' (← mark ']' rest))

/-- A key and its value. -/
def pair (d : Draft) (cs : List Char) : Option (Draft × List Char) := do
  let (path, rest) ← key cs.length cs
  let rest := skipSpace (← mark '=' rest)
  let (v, rest) ← value rest.length rest
  return (← d.add path v, rest)

/-- A statement, if one begins here. -/
def statement (d : Draft) : List Char → Option (Draft × List Char)
  | '[' :: '[' :: cs => itemHeader d.settle cs
  | '[' :: cs => tableHeader d.settle cs
  | c :: cs =>
    if isKeyStart c then pair d (c :: cs)
    else if c = '#' || c = '\n' then some (d, c :: cs)
    else none
  | [] => some (d, [])

/-- Reads statements, each to the end of its line. -/
def statements : Nat → Draft → List Char → Option Draft
  | 0, _, _ => none
  | fuel + 1, d, cs => do
    let (d, rest) ← statement d (skipSpace cs)
    match ← skipComment (skipSpace rest) with
    | [] => return d
    | '\n' :: rest => statements fuel d rest
    | _ => none

/-- Two characters that end a line as the one that does. -/
def unifyNewlines : List Char → List Char
  | '\r' :: '\n' :: cs => '\n' :: unifyNewlines cs
  | c :: cs => c :: unifyNewlines cs
  | [] => []

/-- The table that a text holds, if it is well formed. -/
def parse (s : String) : Option Table :=
  let cs := unifyNewlines s.toList
  (statements (cs.length + 1) {} cs).map Draft.data

end ImportGuard.Toml
