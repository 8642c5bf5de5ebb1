import ImportGuard.Yaml.Scalar
import ImportGuard.Yaml.Token

namespace ImportGuard.Yaml

/-- What a node holds. Its parts are told by their places among the nodes of the document. -/
inductive Content
  | scalar (text : String)
  | list (items : List Nat)
  | table (pairs : List (Nat × Nat))
  deriving Repr

def Content.pairs : Content → List (Nat × Nat)
  | scalar _ | list _ => []
  | table pairs => pairs

structure Node where
  kind : Kind
  content : Content
  deriving Repr

/-- The nodes of a document. An alias lets a node stand in several places, and inside itself. -/
abbrev Graph := Array Node

namespace Graph

/-- Whether the node in a place is of a kind. -/
def isOf (g : Graph) (kind : Kind) (place : Nat) : Bool := g[place]?.any (·.kind == kind)

/-- The pairs of the table in a place. -/
def pairs (g : Graph) (place : Nat) : List (Nat × Nat) :=
  (g[place]?.map (·.content.pairs)).getD []

/-- How many pairs there are in all tables. -/
def pairCount (g : Graph) : Nat := g.toList.foldl (fun count n => count + n.content.pairs.length) 0

end Graph

/-- What is known while nodes are read. -/
structure Reading where
  tokens : List Token
  /-- What the handles of kinds stand for. -/
  handles : List (String × String) := []
  graph : Graph := #[]
  /-- The places of nodes under their anchors. -/
  anchors : List (String × Nat) := []

abbrev Reader := StateT Reading (Except Failure)

namespace Reader

def refuse {α : Type} : Reader α := throw .badYaml

def peek : Reader (Option Token) := return (← get).tokens.head?

/-- One token on. -/
def skip : Reader Unit := modify fun s => { s with tokens := s.tokens.tail }

/-- Whether the next token is the given one. -/
def isAt (t : Token) : Reader Bool := return (← peek) == some t

/-- Skips the given token, if it is the next one. -/
def skipIf (t : Token) : Reader Bool := do
  if ← isAt t then
    skip
    return true
  else return false

/-- Skips the given token, which must be the next one. -/
def expect (t : Token) : Reader Unit := do
  unless ← skipIf t do refuse

/-- Whether one of the given tokens is next. -/
def isAtAny (ts : List Token) : Reader Bool := return (← peek).any ts.contains

/-- Notes the place of an anchor. -/
def noteAnchor (anchor : Option String) (place : Nat) : Reader Unit := do
  if let some name := anchor then
    if ((← get).anchors.lookup name).isSome then refuse
    modify fun s => { s with anchors := (name, place) :: s.anchors }

/-- The place of an alias. -/
def resolve (name : String) : Reader Nat := do
  match (← get).anchors.lookup name with
  | some place => return place
  | none => refuse

/-- Adds a node. -/
def add (kind : Kind) (content : Content) : Reader Nat := do
  let place := (← get).graph.size
  modify fun s => { s with graph := s.graph.push ⟨kind, content⟩ }
  return place

/-- Adds the node where nothing is written. -/
def addEmpty : Reader Nat := add .null (.scalar "")

/-- Adds a collection, which has its place before its parts are read. -/
def addCollection (anchor : Option String) (kind : Kind) (content : Reader Content) :
    Reader Nat := do
  let place ← add kind (.list [])
  noteAnchor anchor place
  let content ← content
  modify fun s => { s with graph := s.graph.setIfInBounds place ⟨kind, content⟩ }
  return place

/-- The full name of a kind. -/
def fullName (handle : Option String) (suffix : String) : Reader String := do
  match handle with
  | none => return suffix
  | some h =>
    match (← get).handles.lookup h with
    | some domain => return domain ++ suffix
    | none => refuse

private def anchor? : Reader (Option String) := do
  match ← peek with
  | some (.anchor name) =>
    skip
    return some name
  | _ => return none

private def tag? : Reader (Option String) := do
  match ← peek with
  | some (.tag handle suffix) =>
    skip
    return some (← fullName handle suffix)
  | _ => return none

/-- The anchor and the kind before a node, in either order. -/
def properties : Reader (Option String × Option String) := do
  match ← anchor? with
  | some name => return (some name, ← tag?)
  | none =>
    let tag ← tag?
    return (← anchor?, tag)

/-- The kind of a collection. -/
def collectionKind (tag : Option String) (usual : Kind) : Kind :=
  match tag with
  | none => usual
  | some name => if name == "!" then usual else .ofName name

/-- The kind of a text. -/
def scalarKind (tag : Option String) (text : String) (plain : Bool) : Kind :=
  match tag with
  | none => if plain then .ofPlain text else .text
  | some name => if name == "!" then .ofPlain text else .ofName name

mutual

/-- Reads a node. In a block it may be a block itself, and where `bare` allows it, a list whose
items stand no further in than the key. -/
def node (inBlock bare : Bool) : Nat → Reader Nat
  | 0 => refuse
  | fuel + 1 => do
    match ← peek with
    | some (.alias name) =>
      skip
      resolve name
    | _ =>
      let (anchor, tag) ← properties
      let list (items : Reader (List Nat)) : Reader Nat :=
        addCollection anchor (collectionKind tag .list) (.list <$> items)
      let table (pairs : Reader (List (Nat × Nat))) : Reader Nat :=
        addCollection anchor (collectionKind tag .table) (.table <$> pairs)
      let scalar (text : String) (plain : Bool) : Reader Nat := do
        let place ← add (scalarKind tag text plain) (.scalar text)
        noteAnchor anchor place
        return place
      match ← peek with
      | some (.scalar text plain) =>
        skip
        scalar text plain
      | some .flowListStart =>
        skip
        list (flowItems true fuel)
      | some .flowTableStart =>
        skip
        table (flowPairs true fuel)
      | some t =>
        if bare && t == .item then
          list (bareItems fuel)
        else if inBlock && t == .listStart then
          skip
          list (blockItems fuel)
        else if inBlock && t == .tableStart then
          skip
          table (blockPairs fuel)
        else if anchor.isSome || tag.isSome then scalar "" (tag.isNone)
        else refuse
      | none => if anchor.isSome || tag.isSome then scalar "" (tag.isNone) else refuse

/-- The items of a list in a block. -/
def blockItems : Nat → Reader (List Nat)
  | 0 => refuse
  | fuel + 1 => do
    if ← skipIf .item then
      let item ← if ← isAtAny [.item, .blockEnd] then addEmpty else node true false fuel
      return item :: (← blockItems fuel)
    else
      expect .blockEnd
      return []

/-- The items of a list that stands no further in than its key. -/
def bareItems : Nat → Reader (List Nat)
  | 0 => refuse
  | fuel + 1 => do
    if ← skipIf .item then
      let item ←
        if ← isAtAny [.item, .key, .value, .blockEnd] then addEmpty
        else node true false fuel
      return item :: (← bareItems fuel)
    else return []

/-- The pairs of a table in a block. -/
def blockPairs : Nat → Reader (List (Nat × Nat))
  | 0 => refuse
  | fuel + 1 => do
    if ← skipIf .key then
      let key ←
        if ← isAtAny [.key, .value, .blockEnd] then addEmpty else node true true fuel
      let value ←
        if ← skipIf .value then
          if ← isAtAny [.key, .value, .blockEnd] then addEmpty else node true true fuel
        else addEmpty
      return (key, value) :: (← blockPairs fuel)
    else
      expect .blockEnd
      return []

/-- The value after a key in a flow collection with the given end. -/
def flowValue (close : Token) : Nat → Reader Nat
  | 0 => refuse
  | fuel + 1 => do
    if ← skipIf .value then
      if ← isAtAny [.comma, close] then addEmpty else node false false fuel
    else addEmpty

/-- The items of a list in brackets; a key makes an item a table of one pair. -/
def flowItems (first : Bool) : Nat → Reader (List Nat)
  | 0 => refuse
  | fuel + 1 => do
    if ← skipIf .flowListEnd then return []
    unless first do expect .comma
    if ← skipIf .key then
      let key ←
        if ← isAtAny [.value, .comma, .flowListEnd] then addEmpty
        else node false false fuel
      let value ← flowValue .flowListEnd fuel
      let item ← add .table (.table [(key, value)])
      return item :: (← flowItems false fuel)
    else if ← skipIf .flowListEnd then return []
    else
      let item ← node false false fuel
      return item :: (← flowItems false fuel)

/-- The pairs of a table in braces; a value may be missing. -/
def flowPairs (first : Bool) : Nat → Reader (List (Nat × Nat))
  | 0 => refuse
  | fuel + 1 => do
    if ← skipIf .flowTableEnd then return []
    unless first do expect .comma
    if ← skipIf .key then
      let key ←
        if ← isAtAny [.value, .comma, .flowTableEnd] then addEmpty
        else node false false fuel
      let value ← flowValue .flowTableEnd fuel
      return (key, value) :: (← flowPairs false fuel)
    else if ← skipIf .flowTableEnd then return []
    else
      let key ← node false false fuel
      return (key, ← addEmpty) :: (← flowPairs false fuel)

end

/-- Reads the directives before a document. -/
def directives : List Token → Option (Nat × Nat) → List (String × String) →
    Except Failure (List (String × String) × List Token)
  | .directive (.version major minor) :: rest, version, handles =>
    if version.isSome || major != 1 then throw .badYaml
    else directives rest (some (major, minor)) handles
  | .directive (.tag handle domain) :: rest, version, handles =>
    if (handles.lookup handle).isSome then throw .badYaml
    else directives rest version ((handle, domain) :: handles)
  | .directive (.other _) :: rest, version, handles => directives rest version handles
  | rest, _, handles => return (handles, rest)

def usualHandles : List (String × String) := [("!", "!"), ("!!", Kind.domain)]

private def isDirective : Token → Bool
  | .directive _ => true
  | _ => false

/-- Whether a document has no content. -/
def atDocumentEnd : Reader Bool := do
  match ← peek with
  | none => return true
  | some t => return isDirective t || t == .documentStart || t == .documentEnd

/-- The one document, or nothing if there is none. No other may follow. -/
def document : Reader (Option Nat) := do
  let s ← get
  let fuel := 2 * s.tokens.length + 4
  let found ← match s.tokens with
    | [] => pure none
    | t :: _ =>
      if isDirective t || t == .documentStart then
        let (handles, rest) ← directives s.tokens none []
        set { s with tokens := rest, handles := handles ++ usualHandles }
        expect .documentStart
        if ← atDocumentEnd then some <$> addEmpty else some <$> node true false fuel
      else
        set { s with handles := usualHandles }
        some <$> node true false fuel
  modify fun s => { s with tokens := s.tokens.dropWhile (· == .documentEnd) }
  if (← peek).isSome then refuse
  return found

end Reader

/-- The nodes that tokens hold and the place of the outermost one, if they hold any. -/
def Graph.ofTokens (tokens : List Token) : Except Failure (Option (Graph × Nat)) := do
  let (root, s) ← Reader.document.run { tokens }
  return root.map fun place => (s.graph, place)

end ImportGuard.Yaml
