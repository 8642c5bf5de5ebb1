import ImportGuard.Failure
import ImportGuard.Yaml.Cursor

namespace ImportGuard.Yaml

/-- Refuses the text. -/
def refuse {α : Type} : Except Failure α := throw .badYaml

def hexValue? (c : Char) : Option Nat :=
  if '0' ≤ c && c ≤ '9' then some (c.toNat - '0'.toNat)
  else if 'a' ≤ c && c ≤ 'f' then some (c.toNat - 'a'.toNat + 10)
  else if 'A' ≤ c && c ≤ 'F' then some (c.toNat - 'A'.toNat + 10)
  else none

/-- A number of exactly `n` hexadecimal digits. -/
def hexNumber? : Nat → Nat → List Char → Option Nat
  | 0, value, _ => some value
  | _ + 1, _, [] => none
  | n + 1, value, c :: cs => do hexNumber? n (value * 16 + (← hexValue? c)) cs

def plainEscape? : Char → Option Char
  | '0' => some '\x00'
  | 'a' => some '\x07'
  | 'b' => some '\x08'
  | 't' => some '\t'
  | '\t' => some '\t'
  | 'n' => some '\n'
  | 'v' => some '\x0b'
  | 'f' => some '\x0c'
  | 'r' => some '\r'
  | 'e' => some '\x1b'
  | ' ' => some ' '
  | '"' => some '"'
  | '\\' => some '\\'
  | '/' => some '/'
  | 'N' => some '\x85'
  | '_' => some '\xa0'
  | 'L' => some '\u2028'
  | 'P' => some '\u2029'
  | _ => none

/-- How many digits a coded character has. -/
def codeLength? : Char → Option Nat
  | 'x' => some 2
  | 'u' => some 4
  | 'U' => some 8
  | _ => none

def isHighHalf (n : Nat) : Bool := 0xd800 ≤ n && n < 0xdc00

def isLowHalf (n : Nat) : Bool := 0xdc00 ≤ n && n < 0xe000

/-- The second half of a character that is coded in two halves. -/
def lowHalf? : List Char → Option Nat
  | '\\' :: 'u' :: cs => (hexNumber? 4 0 cs).filter isLowHalf
  | _ => none

/-- A character from the digits of its code. Two halves in a row are one character. -/
def codedChar (n : Nat) (c : Cursor) : Except Failure (Char × Cursor) :=
  match hexNumber? n 0 c.rest with
  | none => refuse
  | some code =>
    let c := c.forward n
    if 0x110000 ≤ code then throw (.badScalar .codePoint)
    else if isHighHalf code then
      match lowHalf? c.rest with
      | some low =>
        return (Char.ofNat (0x10000 + (code - 0xd800) * 1024 + (low - 0xdc00)), c.forward 6)
      | none => return ('\ufffd', c)
    else if isLowHalf code then return ('\ufffd', c)
    else return (Char.ofNat code, c)

/-- Ends of lines and the blanks between them. No document may begin or end there. -/
def quotedBreaks : Nat → List Char → Cursor → Except Failure (List Char × Cursor)
  | 0, _, _ => refuse
  | fuel + 1, breaks, c =>
    if c.atMark then refuse
    else
      let c := c.skipWhile isBlank
      match c.lineBreak? with
      | some (b, c) => quotedBreaks fuel (b :: breaks) c
      | none => return (breaks.reverse, c)

/-- How the end of a line reads where lines are folded: alone it is a space. -/
def fold (first : Char) (more : List Char) : List Char :=
  (if first != '\n' then [first] else if more.isEmpty then [' '] else []) ++ more

/-- A text after its opening quote, with what was read of it so far. -/
def quotedText (double : Bool) :
    Nat → List Char → Cursor → Except Failure (List Char × Cursor)
  | 0, _, _ => refuse
  | fuel + 1, read, c =>
    match c.rest with
    | [] => refuse
    | ch :: next =>
      if ch = '\'' && !double then
        if next.head? == some '\'' then quotedText double fuel (ch :: read) (c.forward 2)
        else return (read.reverse, c.step)
      else if ch = '"' && double then return (read.reverse, c.step)
      else if ch = '\\' && double then
        match next with
        | [] => refuse
        | e :: _ =>
          match plainEscape? e, codeLength? e with
          | some ch, _ => quotedText double fuel (ch :: read) (c.forward 2)
          | none, some n => do
            let (ch, c) ← codedChar n (c.forward 2)
            quotedText double fuel (ch :: read) c
          | none, none =>
            match c.step.lineBreak? with
            | some (_, c) => do
              let (breaks, c) ← quotedBreaks (c.rest.length + 1) [] c
              quotedText double fuel (breaks.reverse ++ read) c
            | none => refuse
      else if isBlank ch || isBreak ch then
        let (blanks, c) := c.takeWhile isBlank
        match c.lineBreak? with
        | some (b, c) => do
          let (breaks, c) ← quotedBreaks (c.rest.length + 1) [] c
          quotedText double fuel ((fold b breaks).reverse ++ read) c
        | none => quotedText double fuel (blanks.reverse ++ read) c
      else quotedText double fuel (ch :: read) c.step

/-- A quoted text from its opening quote on. -/
def quoted (c : Cursor) : Except Failure (String × Cursor) := do
  let (text, c) ← quotedText (c.isAt '"') (c.rest.length + 1) [] c.step
  return (String.ofList text, c)

def isFlowMark (c : Char) : Bool :=
  c = ',' || c = '[' || c = ']' || c = '\x7b' || c = '\x7d'

/-- The characters of a plain text up to a blank or a mark. -/
def plainChunk (flow : Bool) : List Char → List Char
  | [] => []
  | c :: cs =>
    if endsWord (some c)
      || (c = ':' && (endsWord cs.head? || (flow && cs.head?.any isFlowMark)))
      || (flow && (c = '?' || isFlowMark c)) then []
    else c :: plainChunk flow cs

/-- Spaces and ends of lines after the first one; nothing if a document begins or ends there. -/
def plainBreaks : Nat → List Char → Cursor → Option (List Char) × Cursor
  | 0, _, c => (none, c)
  | fuel + 1, breaks, c =>
    if c.isAt ' ' then plainBreaks fuel breaks c.step
    else
      match c.lineBreak? with
      | some (b, c) => if c.atMark then (none, c) else plainBreaks fuel (b :: breaks) c
      | none => (some breaks.reverse, c)

/-- What stands between two parts of a plain text. -/
structure Gap where
  /-- How the gap reads, unless the text ends with it. -/
  chars : List Char
  /-- Whether it goes over the end of a line. -/
  newLine : Bool

def plainGap (c : Cursor) : Gap × Cursor :=
  let (spaces, c) := c.takeWhile (· = ' ')
  match c.lineBreak? with
  | some (b, c) =>
    if c.atMark then (⟨[], true⟩, c)
    else
      match plainBreaks (c.rest.length + 1) [] c with
      | (some breaks, c) => (⟨fold b breaks, true⟩, c)
      | (none, c) => (⟨[], true⟩, c)
  | none => (⟨spaces, false⟩, c)

/-- A plain text, and whether it ended at the beginning of a line. -/
def plainText (flow : Bool) (indent : Int) :
    Nat → List Char → Gap → Cursor → (List Char × Bool) × Cursor
  | 0, read, gap, c => ((read, gap.newLine), c)
  | fuel + 1, read, gap, c =>
    let chunk := plainChunk flow c.rest
    if c.isAt '#' || chunk.isEmpty then ((read, gap.newLine), c)
    else
      let read := read ++ gap.chars ++ chunk
      let (gap, c) := plainGap (c.forward chunk.length)
      if gap.chars.isEmpty || c.isAt '#' || (!flow && (c.column : Int) < indent) then
        ((read, gap.newLine), c)
      else plainText flow indent fuel read gap c

def plain (flow : Bool) (indent : Int) (c : Cursor) : (String × Bool) × Cursor :=
  let ((text, newLine), c) := plainText flow indent (c.rest.length + 1) [] ⟨[], false⟩ c
  ((String.ofList text, newLine), c)

/-- What becomes of the ends of lines after a block. -/
inductive Chomp
  | strip
  | clip
  | keep
  deriving DecidableEq, Repr

/-- The header of a block: what becomes of its tail, and its depth if that is given. -/
structure BlockHeader where
  chomp : Chomp := .clip
  depth : Option Nat := none

def chomp? : Option Char → Option Chomp
  | some '+' => some .keep
  | some '-' => some .strip
  | _ => none

private def depth? (c : Option Char) : Option Nat :=
  (c.filter Char.isDigit).map fun c => c.toNat - '0'.toNat

def blockHeader (c : Cursor) : Except Failure (BlockHeader × Cursor) := do
  let (header, c) : BlockHeader × Cursor :=
    match chomp? c.peek, depth? c.peek with
    | some chomp, _ =>
      match depth? c.step.peek with
      | some depth => (⟨chomp, some depth⟩, c.forward 2)
      | none => (⟨chomp, none⟩, c.step)
    | none, some depth =>
      match chomp? c.step.peek with
      | some chomp => (⟨chomp, some depth⟩, c.forward 2)
      | none => (⟨.clip, some depth⟩, c.step)
    | none, none => ({}, c)
  if header.depth == some 0 || !endsItem c.peek then refuse
  else
    match c.skipRestOfLine with
    | some c => return (header, c)
    | none => refuse

/-- Empty lines before a block, and how far the spaces in them and before its first line go. -/
def leadingLines : Nat → List Char → Nat → Cursor → (List Char × Nat) × Cursor
  | 0, breaks, depth, c => ((breaks.reverse, depth), c)
  | fuel + 1, breaks, depth, c =>
    if c.isAt ' ' then leadingLines fuel breaks (max depth c.step.column) c.step
    else
      match c.lineBreak? with
      | some (b, c) => leadingLines fuel (b :: breaks) depth c
      | none => ((breaks.reverse, depth), c)

/-- Empty lines inside a block, up to the given column of the next one. -/
def emptyLines (indent : Nat) : Nat → List Char → Cursor → List Char × Cursor
  | 0, breaks, c => (breaks.reverse, c)
  | fuel + 1, breaks, c =>
    let c := c.skipSpaces (indent - c.column)
    match c.lineBreak? with
    | some (b, c) => emptyLines indent fuel (b :: breaks) c
    | none => (breaks.reverse, c)

/-- The lines of a block, with what was read so far and the empty lines before the next one. -/
def blockLines (folded : Bool) (indent : Nat) (chomp : Chomp) :
    Nat → List Char → List Char → Cursor → List Char × Cursor
  | 0, read, _, c => (read, c)
  | fuel + 1, read, breaks, c =>
    let startsBlank := c.peek.any isBlank
    let (line, c) := c.takeWhile (fun ch => !isBreak ch)
    let read := read ++ breaks ++ line
    let (lineEnd, c) := match c.lineBreak? with
      | some (b, c) => ([b], c)
      | none => ([], c)
    let (breaks, c) := emptyLines indent (c.rest.length + 1) [] c
    if c.column = indent && !c.atEnd then
      let joined :=
        if folded && lineEnd == ['\n'] && !startsBlank && !c.peek.any isBlank then
          if breaks.isEmpty then [' '] else []
        else lineEnd
      blockLines folded indent chomp fuel (read ++ joined) breaks c
    else
      let lineEnd := if chomp = .strip then [] else lineEnd
      let breaks := if chomp = .keep then breaks else []
      (read ++ lineEnd ++ breaks, c)

/-- A block from its mark on, inside a block of the given depth. -/
def block (depth : Int) (c : Cursor) : Except Failure (String × Cursor) := do
  let folded := c.isAt '>'
  let (header, c) ← blockHeader c.step
  let least := max 1 (depth + 1).toNat
  let ((breaks, indent), c) : (List Char × Nat) × Cursor :=
    match header.depth with
    | none =>
      let ((breaks, found), c) := leadingLines (c.rest.length + 1) [] 0 c
      ((breaks, max least found), c)
    | some n =>
      let indent := least + n - 1
      let (breaks, c) := emptyLines indent (c.rest.length + 1) [] c
      ((breaks, indent), c)
  if c.column = indent && !c.atEnd then
    let (text, c) := blockLines folded indent header.chomp (c.rest.length + 1) [] breaks c
    return (String.ofList text, c)
  else
    return (String.ofList (if header.chomp = .keep then breaks else []), c)

end ImportGuard.Yaml
