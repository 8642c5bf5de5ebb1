import ImportGuard.Text.Lines
import ImportGuard.Yaml.Layout
import ImportGuard.Yaml.Node

namespace ImportGuard.Yaml

namespace Graph

/-- The text of a node, which for a table is that of its default value. A chain of default values
that does not end gives none. -/
def text? (g : Graph) : Nat → Nat → Option String
  | 0, _ => none
  | fuel + 1, place => do
    match (← g[place]?).content with
    | .scalar text => return text
    | .list _ => none
    | .table pairs =>
      let (_, value) ← pairs.find? fun e => g.isOf .default e.1
      text? g fuel value

def setPairs (g : Graph) (place : Nat) (pairs : List (Nat × Nat)) : Graph :=
  g.modify place fun n => { n with content := .table pairs }

/-- The default key is a text where it is a key of its table. -/
def settleDefaults (g : Graph) (place : Nat) : Graph :=
  (g.pairs place).foldl (fun g e => if g.isOf .default e.1 then g.modify e.1 fun n =>
    { n with kind := .text } else g) g

end Graph

/-- What is known while values are built from nodes. -/
structure Building where
  graph : Graph
  /-- The nodes met so far, with their values unless these are built from others. -/
  met : List (Nat × Option Value) := []
  /-- Of the nodes met, those whose parts have not been met yet, in the order of meeting. -/
  waiting : List Nat := []

abbrev Builder := StateT Building (Except Failure)

namespace Builder

def refuse {α : Type} : Builder α := throw .badYaml

def nodeAt (place : Nat) : Builder Node := do
  match (← get).graph[place]? with
  | some n => return n
  | none => refuse

/-- Meets a node. Its value is known at once unless it is built from others. -/
def meet (place : Nat) : Builder Unit := do
  let s ← get
  if (s.met.lookup place).isSome then return
  let n ← nodeAt place
  if n.kind.isCompound then
    set { s with met := (place, none) :: s.met, waiting := s.waiting ++ [place] }
  else
    match s.graph.text? (s.graph.size + 1) place with
    | some text =>
      let v ← scalarValue n.kind text
      set { s with met := (place, some v) :: s.met }
    | none => refuse

/-- The pairs of a table after tables have been merged into it, which `flatten` does. -/
def tablePairs (flatten : Nat → Builder Unit) (place : Nat) : Builder (List (Nat × Nat)) := do
  match (← nodeAt place).content with
  | .table _ =>
    flatten place
    return (← get).graph.pairs place
  | _ => refuse

/-- The pairs of a table, or of the tables of a list with those of later ones first. -/
def mergedPairs (flatten : Nat → Builder Unit) (place : Nat) : Builder (List (Nat × Nat)) := do
  match (← nodeAt place).content with
  | .list items => return (← items.mapM (tablePairs flatten)).reverse.flatten
  | _ => tablePairs flatten place

/-- Puts the pairs of the tables that a table names under the merging key before its own ones. The
names go one by one, so a table may even name itself. -/
def flatten : Nat → Nat → Builder Unit
  | 0, _ => refuse
  | fuel + 1, place => do
    let g := (← get).graph
    let isMerge := fun (e : Nat × Nat) => g.isOf .merge e.1
    match (g.pairs place).find? isMerge with
    | none => modify fun s => { s with graph := s.graph.settleDefaults place }
    | some (_, named) =>
      set { ← get with graph := g.setPairs place ((g.pairs place).eraseP isMerge) }
      let merged ← mergedPairs (flatten fuel) named
      flatten fuel place
      modify fun s => { s with graph := s.graph.setPairs place (merged ++ s.graph.pairs place) }

/-- Meets a key and its value. What is built from others is no key. -/
def meetEntry (key value : Nat) : Builder Unit := do
  meet key
  if (← nodeAt key).kind.isCompound then refuse
  meet value

/-- Meets the one pair of a table, whatever the kind of the table. -/
def meetPair (place : Nat) : Builder Unit := do
  match (← nodeAt place).content with
  | .table [(key, value)] =>
    meet key
    meet value
  | _ => refuse

/-- Meets the parts of a node. -/
def meetParts (place : Nat) : Builder Unit := do
  let n ← nodeAt place
  match n.kind, n.content with
  | .list, .list items => items.forM meet
  | .pairs, .list items => items.forM meetPair
  | .set, .table _ | .table, .table _ =>
    flatten ((← get).graph.pairCount + 1) place
    ((← get).graph.pairs place).forM fun (key, value) => meetEntry key value
  | _, _ => refuse

/-- Meets all that the waiting nodes are built from, level by level from the outside in. -/
def meetWaiting : Nat → Builder Unit
  | 0 => return
  | fuel + 1 => do
    match (← get).waiting with
    | [] => return
    | place :: rest =>
      modify fun s => { s with waiting := rest }
      meetParts place
      meetWaiting fuel

/-- Meets a node and all it is built from. No node waits twice. -/
def meetAll (root : Nat) : Builder Unit := do
  meet root
  meetWaiting ((← get).graph.size + 1)

end Builder

/-- The value of a node that stands inside others. A node inside itself is cut short, but above the
second level none is: there values are looked up and not shown. -/
def Building.value (s : Building) : Nat → Nat → List Nat → Nat → Value
  | 0, _, _, _ => .null
  | fuel + 1, level, others, place =>
    match (s.met.lookup place).join with
    | some v => v
    | none =>
      if others.contains place then .again (s.graph.isOf .table place)
      else
        let part := s.value fuel (level + 1) (if level < 2 then [] else place :: others)
        match s.graph[place]? with
        | some ⟨.list, .list items⟩ => .list (items.map part)
        | some ⟨.pairs, .list items⟩ =>
          .list ((items.flatMap s.graph.pairs).map fun (key, value) => .pair (part key) (part value))
        | some ⟨.set, .table pairs⟩ =>
          .set ((Table.ofList (pairs.map fun e => (part e.1, .null))).map Prod.fst)
        | some ⟨.table, .table pairs⟩ =>
          .table (Table.ofList (pairs.map fun (key, value) => (part key, part value)))
        | _ => .null

/-- The value of the outermost node. Below the second level each node is inside different ones. -/
def Graph.value (g : Graph) (root : Nat) : Except Failure Value := do
  let (_, s) ← (Builder.meetAll root).run { graph := g }
  return s.value (g.size + 3) 0 [] root

/-- Characters that a registry file may hold. -/
def isAllowed (c : Char) : Bool :=
  let n := c.toNat
  c = '\t' || c = '\n' || c = '\r' || (0x20 ≤ n && n ≤ 0x7e) || n = 0x85 ||
    (0xa0 ≤ n && n ≤ 0xfffd) || 0x10000 ≤ n

/-- The value that a text holds; an empty one holds the null value. -/
def parse (s : String) : Except Failure Value := do
  let cs := Text.unifyNewlines s.toList
  if !cs.all isAllowed then throw .badYaml
  match ← Graph.ofTokens (← tokens cs) with
  | none => return .null
  | some (g, root) => g.value root

end ImportGuard.Yaml
