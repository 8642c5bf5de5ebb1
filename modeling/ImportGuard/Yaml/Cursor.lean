namespace ImportGuard.Yaml

structure Cursor where
  rest : List Char
  index : Nat := 0
  line : Nat := 0
  column : Nat := 0

/-- Characters that end a line. -/
def isBreak (c : Char) : Bool := c = '\n' || c = '\x85' || c = '\u2028' || c = '\u2029'

def isBlank (c : Char) : Bool := c = ' ' || c = '\t'

/-- Whether a space or the end of a line is here. -/
def endsItem : Option Char → Bool
  | none => true
  | some c => c = ' ' || isBreak c

/-- Whether a blank or the end of a line is here. -/
def endsWord : Option Char → Bool
  | none => true
  | some c => isBlank c || isBreak c

namespace Cursor

def peek (c : Cursor) : Option Char := c.rest.head?

def peekAt (c : Cursor) (n : Nat) : Option Char := c.rest[n]?

def atEnd (c : Cursor) : Bool := c.rest.isEmpty

def isAt (c : Cursor) (ch : Char) : Bool := c.peek == some ch

/-- One character on. A byte order mark has no width. -/
def step (c : Cursor) : Cursor :=
  match c.rest with
  | [] => c
  | ch :: rest =>
    if isBreak ch then ⟨rest, c.index + 1, c.line + 1, 0⟩
    else if ch = '\ufeff' then ⟨rest, c.index + 1, c.line, c.column⟩
    else ⟨rest, c.index + 1, c.line, c.column + 1⟩

def forward (c : Cursor) : Nat → Cursor
  | 0 => c
  | n + 1 => c.step.forward n

/-- The characters up to the first that fails the test, and the place after them. -/
def takeWhile (c : Cursor) (p : Char → Bool) : List Char × Cursor :=
  let run := c.rest.takeWhile p
  (run, c.forward run.length)

def skipWhile (c : Cursor) (p : Char → Bool) : Cursor := (c.takeWhile p).2

/-- At most `n` spaces on. -/
def skipSpaces (c : Cursor) (n : Nat) : Cursor :=
  c.forward ((c.rest.take n).takeWhile (· = ' ')).length

/-- The end of a line, if it is here. Most of them read as a newline. -/
def lineBreak? (c : Cursor) : Option (Char × Cursor) :=
  match c.rest with
  | ch :: _ =>
    if ch = '\n' || ch = '\x85' then some ('\n', c.step)
    else if isBreak ch then some (ch, c.step)
    else none
  | [] => none

/-- Whether the mark that begins a document is here. -/
def atStartMark (c : Cursor) : Bool :=
  match c.rest with
  | '-' :: '-' :: '-' :: rest => endsWord rest.head?
  | _ => false

/-- Whether the mark that ends a document is here. -/
def atEndMark (c : Cursor) : Bool :=
  match c.rest with
  | '.' :: '.' :: '.' :: rest => endsWord rest.head?
  | _ => false

def atMark (c : Cursor) : Bool := c.atStartMark || c.atEndMark

/-- Skips a comment, if one is here. -/
def skipComment (c : Cursor) : Cursor :=
  if c.isAt '#' then c.skipWhile (fun ch => !isBreak ch) else c

/-- Skips spaces and a comment up to the end of the line; anything else is refused. -/
def skipRestOfLine (c : Cursor) : Option Cursor :=
  let c := (c.skipWhile (· = ' ')).skipComment
  if c.atEnd then some c else c.lineBreak?.map Prod.snd

end Cursor

end ImportGuard.Yaml
