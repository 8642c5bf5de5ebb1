import ImportGuard.Regex.Group

namespace ImportGuard.Regex

/-- What a quantifier after an item may do with it. -/
inductive Repeatable
  | yes
  | anchor
  | loop
  deriving DecidableEq, Repr

/-- An item of a sequence. The parts of a group without a mark of its own join the sequence. -/
structure Item where
  parts : List Node
  repeatable : Repeatable := .yes

namespace Item

def ofNode : Node → Item
  | .anchor place => ⟨[.anchor place], .anchor⟩
  | n => ⟨[n], .yes⟩

end Item

/-- The first node of every branch, if it is the same test in all of them. -/
def sharedHead? : List (List Node) → Option Node
  | [] => none
  | branches@((n :: _) :: _) =>
    if branches.all fun b => b.head?.any n.sameAtom then some n else none
  | _ => none

/-- Splits off what all branches begin with. -/
def splitShared : Nat → List (List Node) → List Node × List (List Node)
  | 0, branches => ([], branches)
  | fuel + 1, branches =>
    match sharedHead? branches with
    | some n =>
      let (shared, rest) := splitShared fuel (branches.map List.tail)
      (n :: shared, rest)
    | none => ([], branches)

/-- The entries of a branch that is a single set. -/
def setBranch? : List Node → Option (List Member)
  | [.one (.set false members)] => some members
  | _ => none

/-- Several branches as one node: a set if each of them is one. -/
def joinBranches : List (List Node) → List Node
  | [branch] => branch
  | branches =>
    let (shared, rest) := splitShared (branches.headD []).length branches
    match rest.mapM setBranch? with
    | some members => shared ++ [.one (.set false members.flatten.eraseDups)]
    | none => shared ++ [Node.ofBranches (rest.map Node.ofList)]

def isVerboseBlank (c : Char) : Bool :=
  c = ' ' || ('\t' ≤ c && c ≤ '\r')

namespace Parse

def skipLine : Nat → Parse Unit
  | 0 => return
  | n + 1 => do
    match ← next with
    | none => return
    | some t => unless t = .char '\n' do skipLine n

/-- The switches set for the whole pattern so far. -/
def topContext : Parse Context := do
  return ({} : Context).adjust (← get).flags []

def expectClose (start : Nat) : Parse Unit := do
  unless ← accept ')' do throw (.invalid .unterminatedGroup (some start))

/-- Puts a quantifier on the last item. -/
def quantify (place : Nat) (low : Nat) (high : Option Nat) : List Item → Parse (List Item)
  | [] => throw (.invalid .nothingToRepeat (some place))
  | item :: items => do
    match item.repeatable with
    | .anchor => throw (.invalid .nothingToRepeat (some place))
    | .loop => throw (.invalid .multipleRepeat (some place))
    | .yes =>
      let g ← greed
      return ⟨[.loop g low high (Node.ofList item.parts)], .loop⟩ :: items

mutual

/-- Branches up to the end of the group or of the pattern. -/
def alternation : Nat → Context → Bool → Parse (List Node)
  | 0, _, _ => return []
  | fuel + 1, ctx, top => do
    return joinBranches (← branches fuel ctx top true)

def branches : Nat → Context → Bool → Bool → Parse (List (List Node))
  | 0, _, _, _ => return []
  | fuel + 1, ctx, top, first => do
    let branch ← sequence fuel ctx (top && first) []
    if ← accept '|' then
      let ctx ← if top then topContext else pure ctx
      return branch :: (← branches fuel ctx top false)
    return [branch]

/-- The items up to a bar, a closing parenthesis or the end; `items` are those before, last one
first. Only the first branch of the whole pattern may begin with switches for all of it. -/
def sequence : Nat → Context → Bool → List Item → Parse (List Node)
  | 0, _, _, items => return items.reverse.flatMap Item.parts
  | fuel + 1, ctx, first, items => do
    match ← peek with
    | none => return items.reverse.flatMap Item.parts
    | some (.char '|') => return items.reverse.flatMap Item.parts
    | some (.char ')') => return items.reverse.flatMap Item.parts
    | some t =>
      let _ ← next
      match t with
      | .lone => return items.reverse.flatMap Item.parts
      | .escape c => sequence fuel ctx first (.ofNode (← escape c) :: items)
      | .char c =>
        if ctx.verbose && isVerboseBlank c then sequence fuel ctx first items
        else if ctx.verbose && c = '#' then
          skipLine ((← get).rest.length + 1)
          sequence fuel ctx first items
        else
          match c with
          | '[' => sequence fuel ctx first (.ofNode (.one (← bracketed)) :: items)
          | '.' => sequence fuel ctx first (.ofNode (.one .any) :: items)
          | '^' => sequence fuel ctx first (.ofNode (.anchor .lineStart) :: items)
          | '$' => sequence fuel ctx first (.ofNode (.anchor .lineEnd) :: items)
          | '(' => group fuel ctx first items ((← get).pos - 1)
          | _ =>
            if c = '*' || c = '+' || c = '?' || c = '\x7b' then
              let here := (← get).pos - 1
              match ← counts? c with
              | some (low, high) => sequence fuel ctx first (← quantify here low high items)
              | none => sequence fuel ctx first (.ofNode (.one (.literal c.toNat)) :: items)
            else sequence fuel ctx first (.ofNode (.one (.literal c.toNat)) :: items)

/-- The group whose parenthesis is at `start`, and the items after it. -/
def group : Nat → Context → Bool → List Item → Nat → Parse (List Node)
  | 0, _, _, items, _ => return items.reverse.flatMap Item.parts
  | fuel + 1, ctx, first, items, start => do
    match ← opening start with
    | .comment => sequence fuel ctx first items
    | .globalFlags =>
      if !first || !items.isEmpty then throw (.invalid .lateGlobalFlags (some start))
      sequence fuel (← topContext) first items
    | .reference index => sequence fuel ctx first (⟨[.again index], .yes⟩ :: items)
    | .capture name =>
      let index ← openGroup name
      let body := Node.ofList (← alternation fuel ctx false)
      expectClose start
      closeGroup index body
      sequence fuel ctx first (⟨[.group index body], .yes⟩ :: items)
    | .plain on off =>
      let parts ← alternation fuel (ctx.adjust on off) false
      expectClose start
      if on.isEmpty && off.isEmpty then sequence fuel ctx first (⟨parts, .yes⟩ :: items)
      else sequence fuel ctx first (⟨[.within on off (Node.ofList parts)], .yes⟩ :: items)
    | .atomic =>
      let body := Node.ofList (← alternation fuel ctx false)
      expectClose start
      sequence fuel ctx first (⟨[.atomic body], .yes⟩ :: items)
    | .ahead negated =>
      let body := Node.ofList (← alternation fuel ctx false)
      expectClose start
      sequence fuel ctx first (⟨[.ahead negated body], .yes⟩ :: items)
    | .behind negated =>
      let outer := (← get).groupsBeforeLookbehind
      let count ← groupCount
      modify fun r => { r with groupsBeforeLookbehind := some (outer.getD count) }
      let body := Node.ofList (← alternation fuel ctx false)
      modify fun r => { r with groupsBeforeLookbehind := outer }
      expectClose start
      let w ← widthOf body
      sequence fuel ctx first (⟨[.behind negated w body], .yes⟩ :: items)
    | .condition index =>
      let yes ← sequence fuel ctx false []
      let no ← if ← accept '|' then do
          let no ← sequence fuel ctx false []
          if (← peek) = some (.char '|') then refuse .moreThanTwoBranches 0
          pure no
        else pure []
      expectClose start
      sequence fuel ctx first
        (⟨[.ifGroup index (Node.ofList yes) (Node.ofList no)], .yes⟩ :: items)

end

/-- The whole pattern. -/
def pattern : Parse Node := do
  checkNext
  let nodes ← alternation (4 * (← get).rest.length + 8) {} true
  let r ← get
  if r.flags.contains .ascii && r.flags.contains .unicode then throw .clashingFlags
  if r.rest ≠ [] then refuse .unbalancedParenthesis 0
  match r.conditions.find? fun (index, _) => r.groups.length < index with
  | some (index, pos) => throw (.invalid (.invalidGroupReference index) (some pos))
  | none => return Node.ofList nodes

end Parse

namespace Node

/-- The greatest distance that a look-behind can look back. -/
def farthest : Nat := 4294967295

/-- What is wrong with a tree, if anything: a look-behind has to have one width, and templates have
no loops. -/
def flaw? (template : Bool) : Node → Option Cause
  | empty => none
  | one _ => none
  | anchor _ => none
  | seq a b => (a.flaw? template).or (b.flaw? template)
  | alt a b => (a.flaw? template).or (b.flaw? template)
  | group _ n => n.flaw? template
  | within _ _ n => n.flaw? template
  | loop g _ _ n => if template then some (.templateLoop g) else n.flaw? template
  | atomic n => n.flaw? template
  | ahead _ n => n.flaw? template
  | behind _ w n =>
    if farthest < w.least then some .farLookbehind
    else if w.least ≠ w.most then some .variableLookbehind
    else n.flaw? template
  | again _ => none
  | ifGroup _ yes no => (yes.flaw? template).or (no.flaw? template)

end Node

/-- A pattern ready to match: its text, its tree and the switches set for all of it. -/
structure Pattern where
  source : String
  root : Node
  groups : Nat
  context : Context
  deriving Repr

namespace Pattern

def compile (source : String) : Except Error Pattern := do
  let (root, reader) ← Parse.pattern.run { rest := Token.ofChars source.toList }
  match root.flaw? (reader.flags.contains .template) with
  | some cause => throw (.invalid cause none)
  | none =>
    return {
      source
      root
      groups := reader.groups.length
      context := ({} : Context).adjust reader.flags [] }

end Pattern

end ImportGuard.Regex
