import ImportGuard.Yaml.Mark

namespace ImportGuard.Yaml

/-- A place where a key on one line may have begun. -/
structure KeyStart where
  /-- The number of tokens before it. -/
  number : Nat
  /-- Whether it must be a key. -/
  required : Bool
  index : Nat
  line : Nat
  column : Nat

/-- The tokens so far, and the blocks that are open. A text that turns out to be a key gets its mark
afterwards, at the place where it began. -/
structure Layout where
  cursor : Cursor
  /-- How many flow collections are open. -/
  flow : Nat := 0
  /-- The column of the innermost block, and those of the blocks around it. -/
  indent : Int := -1
  indents : List Int := []
  /-- Whether a key on one line may begin here. -/
  allowKey : Bool := true
  /-- Where a key may have begun, for each open flow collection and for the block around them. -/
  starts : List (Nat × KeyStart) := []
  tokens : Array Token := #[]

namespace Layout

def push (l : Layout) (t : Token) : Layout := { l with tokens := l.tokens.push t }

def inFlow (l : Layout) : Bool := l.flow != 0

def start? (l : Layout) : Option KeyStart := l.starts.lookup l.flow

/-- Forgets the place at the current level, which must not have to be a key. -/
def dropStart (l : Layout) : Except Failure Layout :=
  match l.start? with
  | none => return l
  | some s =>
    if s.required then refuse
    else return { l with starts := l.starts.filter fun e => e.1 != l.flow }

/-- Notes the current place, if a key may begin here. -/
def saveStart (l : Layout) : Except Failure Layout := do
  if l.allowKey then
    let l ← l.dropStart
    let s : KeyStart :=
      { number := l.tokens.size
        required := !l.inFlow && l.indent == l.cursor.column
        index := l.cursor.index
        line := l.cursor.line
        column := l.cursor.column }
    return { l with starts := (l.flow, s) :: l.starts }
  else return l

/-- The longest key on one line. -/
def keyLimit : Nat := 1024

/-- Whether a key that began there can no longer end here. -/
def isStale (l : Layout) (s : KeyStart) : Bool :=
  s.line != l.cursor.line || keyLimit < l.cursor.index - s.index

/-- Forgets all places that are too far back, none of which must have to be a key. -/
def dropStale (l : Layout) : Except Failure Layout :=
  if l.starts.any fun e => l.isStale e.2 && e.2.required then refuse
  else return { l with starts := l.starts.filter fun e => !l.isStale e.2 }

/-- Closes the blocks that stand further in than a column. -/
def unwindTo (column : Int) : List Int → Layout → Layout
  | [], l => l
  | outer :: indents, l =>
    if !l.inFlow && column < l.indent then
      unwindTo column indents { l.push .blockEnd with indent := outer, indents }
    else l

def unwind (l : Layout) (column : Int) : Layout := unwindTo column l.indents l

/-- Whether a block that begins at a column is a new one. -/
def opens (l : Layout) (column : Nat) : Bool := !l.inFlow && l.indent < column

/-- Opens a block, unless it is open already. -/
def indentTo (l : Layout) (column : Nat) : Layout :=
  if l.opens column then { l with indent := column, indents := l.indent :: l.indents } else l

/-- Opens a block with its token. -/
def openBlock (l : Layout) (t : Token) : Layout :=
  if l.opens l.cursor.column then (l.indentTo l.cursor.column).push t else l

/-- Skips spaces, comments and ends of lines; a key may begin on a new line of a block. -/
def skipVoid : Nat → Layout → Layout
  | 0, l => l
  | fuel + 1, l =>
    let c := (l.cursor.skipWhile (· = ' ')).skipComment
    match c.lineBreak? with
    | some (_, c) => skipVoid fuel { l with cursor := c, allowKey := l.allowKey || !l.inFlow }
    | none => { l with cursor := c }

/-- Skips a byte order mark at the beginning of the text. -/
def skipOrderMark (l : Layout) : Layout :=
  if l.cursor.index = 0 && l.cursor.isAt '\ufeff' then { l with cursor := l.cursor.step } else l

/-- A mark of one character that ends what came before it. -/
def mark (l : Layout) (allowKey : Bool) (t : Token) : Except Failure Layout := do
  let l ← l.dropStart
  return ({ l with allowKey, cursor := l.cursor.step }).push t

/-- The beginning or end of a document. -/
def documentMark (l : Layout) (t : Token) : Except Failure Layout := do
  let l ← (l.unwind (-1)).dropStart
  return ({ l with allowKey := false, cursor := l.cursor.forward 3 }).push t

def directiveLine (l : Layout) : Except Failure Layout := do
  let l ← (l.unwind (-1)).dropStart
  let (d, cursor) ← directive l.cursor
  return ({ l with allowKey := false, cursor }).push (.directive d)

def openFlow (l : Layout) (t : Token) : Except Failure Layout := do
  let l ← l.saveStart
  return ({ l with flow := l.flow + 1, allowKey := true, cursor := l.cursor.step }).push t

def closeFlow (l : Layout) (t : Token) : Except Failure Layout := do
  let l ← l.dropStart
  if !l.inFlow then refuse
  return ({ l with flow := l.flow - 1, allowKey := false, cursor := l.cursor.step }).push t

def listItem (l : Layout) : Except Failure Layout :=
  if !l.inFlow && !l.allowKey then refuse else (l.openBlock .listStart).mark true .item

def keyMark (l : Layout) : Except Failure Layout :=
  if !l.inFlow && !l.allowKey then refuse
  else (l.openBlock .tableStart).mark (!l.inFlow) .key

/-- Puts the mark of a key before it, and that of a table if it begins one. -/
def insertKey (l : Layout) (s : KeyStart) : Layout :=
  let tokens := l.tokens.insertIdxIfInBounds s.number .key
  if l.opens s.column then
    { l.indentTo s.column with tokens := tokens.insertIdxIfInBounds s.number .tableStart }
  else { l with tokens }

def valueMark (l : Layout) : Except Failure Layout :=
  match l.start? with
  | some s =>
    let l := { l with starts := l.starts.filter fun e => e.1 != l.flow }
    return ({ l.insertKey s with allowKey := false, cursor := l.cursor.step }).push .value
  | none =>
    if !l.inFlow && !l.allowKey then refuse
    else (l.openBlock .tableStart).mark (!l.inFlow) .value

/-- A token that may be a key, or part of one. -/
def keyPart (l : Layout) (read : Cursor → Except Failure (Token × Cursor)) :
    Except Failure Layout := do
  let l ← l.saveStart
  let (t, cursor) ← read l.cursor
  return ({ l with allowKey := false, cursor }).push t

def plainScalar (l : Layout) : Except Failure Layout := do
  let l ← l.saveStart
  let ((text, newLine), cursor) := plain l.inFlow (l.indent + 1) l.cursor
  return ({ l with allowKey := newLine, cursor }).push (.scalar text true)

def blockScalar (l : Layout) : Except Failure Layout := do
  let l ← l.dropStart
  let (text, cursor) ← block l.indent l.cursor
  return ({ l with allowKey := true, cursor }).push (.scalar text false)

/-- Characters that do not begin a plain text by themselves. -/
def isIndicator (c : Char) : Bool := "-?:,[]\x7b\x7d#&*!|>'\"%@`".toList.contains c

def startsPlain (l : Layout) (c : Char) : Bool :=
  !(endsWord (some c) || isIndicator c) ||
    (!endsWord (l.cursor.peekAt 1) && (c = '-' || (!l.inFlow && (c = '?' || c = ':'))))

/-- Reads the next token, which begins with the given character. -/
def token (l : Layout) (c : Char) : Except Failure Layout :=
  let alone := endsWord (l.cursor.peekAt 1)
  if c = '%' && l.cursor.column = 0 then l.directiveLine
  else if l.cursor.column = 0 && l.cursor.atStartMark then l.documentMark .documentStart
  else if l.cursor.column = 0 && l.cursor.atEndMark then l.documentMark .documentEnd
  else if c = '[' then l.openFlow .flowListStart
  else if c = '\x7b' then l.openFlow .flowTableStart
  else if c = ']' then l.closeFlow .flowListEnd
  else if c = '\x7d' then l.closeFlow .flowTableEnd
  else if c = ',' then l.mark true .comma
  else if c = '-' && alone then l.listItem
  else if c = '?' && (l.inFlow || alone) then l.keyMark
  else if c = ':' && (l.inFlow || alone) then l.valueMark
  else if c = '*' then l.keyPart fun c => (anchorName c).map fun (n, c) => (.alias n, c)
  else if c = '&' then l.keyPart fun c => (anchorName c).map fun (n, c) => (.anchor n, c)
  else if c = '!' then l.keyPart tag
  else if (c = '|' || c = '>') && !l.inFlow then l.blockScalar
  else if c = '\'' || c = '"' then
    l.keyPart fun c => (quoted c).map fun (text, c) => (.scalar text false, c)
  else if l.startsPlain c then l.plainScalar
  else refuse

/-- Reads tokens to the end of the text. -/
def run : Nat → Layout → Except Failure (Array Token)
  | 0, _ => refuse
  | fuel + 1, l => do
    let l := l.skipOrderMark
    let l ← (skipVoid (l.cursor.rest.length + 1) l).dropStale
    let l := l.unwind l.cursor.column
    match l.cursor.peek with
    | none => return (← (l.unwind (-1)).dropStart).tokens
    | some c => run fuel (← l.token c)

end Layout

/-- The tokens of a text. -/
def tokens (cs : List Char) : Except Failure (List Token) := do
  return (← Layout.run (cs.length + 2) { cursor := { rest := cs } }).toList

end ImportGuard.Yaml
