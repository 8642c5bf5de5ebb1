namespace ImportGuard.Toml

def isControl (c : Char) : Bool := c.toNat < 32 || c.toNat = 127

/-- Controls that may not stand in a comment or in a text on one line. -/
def isBarred (c : Char) : Bool := isControl c && c != '\t'

def isSpace (c : Char) : Bool := c = ' ' || c = '\t'

def isSpaceOrNewline (c : Char) : Bool := isSpace c || c = '\n'

def skipSpace (cs : List Char) : List Char := cs.dropWhile isSpace

/-- Skips a comment up to the end of its line. -/
def skipComment : List Char → Option (List Char)
  | '#' :: cs =>
    if (cs.takeWhile (· != '\n')).any isBarred then none else some (cs.dropWhile (· != '\n'))
  | cs => some cs

/-- Skips blanks, newlines and comments; the flag says whether a comment has begun. -/
def skipVoid : Bool → List Char → Option (List Char)
  | _, [] => some []
  | true, c :: cs =>
    if c = '\n' then skipVoid false cs
    else if isBarred c then none
    else skipVoid true cs
  | false, c :: cs =>
    if isSpaceOrNewline c then skipVoid false cs
    else if c = '#' then skipVoid true cs
    else some (c :: cs)

def hexValue? (c : Char) : Option Nat :=
  if '0' ≤ c && c ≤ '9' then some (c.toNat - '0'.toNat)
  else if 'a' ≤ c && c ≤ 'f' then some (c.toNat - 'a'.toNat + 10)
  else if 'A' ≤ c && c ≤ 'F' then some (c.toNat - 'A'.toNat + 10)
  else none

/-- A number of exactly `n` hexadecimal digits. -/
def hexNumber : Nat → Nat → List Char → Option (Nat × List Char)
  | 0, value, cs => some (value, cs)
  | _ + 1, _, [] => none
  | n + 1, value, c :: cs => do hexNumber n (value * 16 + (← hexValue? c)) cs

/-- The character with the code in the next `n` digits. -/
def codedChar (n : Nat) (cs : List Char) : Option (List Char × List Char) := do
  let (code, rest) ← hexNumber n 0 cs
  if code.isValidChar then some ([Char.ofNat code], rest) else none

def plainEscape? : Char → Option Char
  | 'b' => some '\x08'
  | 't' => some '\t'
  | 'n' => some '\n'
  | 'f' => some '\x0c'
  | 'r' => some '\r'
  | '"' => some '"'
  | '\\' => some '\\'
  | _ => none

/-- What follows a backslash. In texts of several lines a backslash at the end of a line drops the
newline and the blanks after it. -/
def escape (lines : Bool) : List Char → Option (List Char × List Char)
  | [] => none
  | c :: cs =>
    if lines && c = '\n' then some ([], cs.dropWhile isSpaceOrNewline)
    else if lines && isSpace c then
      match skipSpace cs with
      | [] => some ([], [])
      | '\n' :: rest => some ([], rest.dropWhile isSpaceOrNewline)
      | _ => none
    else if c = 'u' then codedChar 4 cs
    else if c = 'U' then codedChar 8 cs
    else (plainEscape? c).map fun c => ([c], cs)

/-- A text after its opening double quotes, with what was read of it so far. -/
def basicText (lines : Bool) : Nat → List Char → List Char → Option (List Char × List Char)
  | 0, _, _ => none
  | _ + 1, _, [] => none
  | fuel + 1, read, c :: cs =>
    if c = '"' then
      if !lines then some (read.reverse, cs)
      else
        match cs with
        | '"' :: '"' :: rest => some (read.reverse, rest)
        | _ => basicText lines fuel (c :: read) cs
    else if c = '\\' then do
      let (chars, rest) ← escape lines cs
      basicText lines fuel (chars.reverse ++ read) rest
    else if isBarred c && !(lines && c = '\n') then none
    else basicText lines fuel (c :: read) cs

/-- A text after its opening single quote. -/
def literalText (cs : List Char) : Option (List Char × List Char) :=
  let text := cs.takeWhile (· != '\'')
  match cs.dropWhile (· != '\'') with
  | _ :: rest => if text.any isBarred then none else some (text, rest)
  | [] => none

/-- A text of several lines after its three opening single quotes. -/
def literalLines : List Char → Option (List Char × List Char)
  | [] => none
  | '\'' :: '\'' :: '\'' :: rest => some ([], rest)
  | c :: cs =>
    if isBarred c && c != '\n' then none
    else (literalLines cs).map fun (text, rest) => (c :: text, rest)

/-- Up to two more quotes before the closing three belong to the text. -/
def extraQuotes (quote : Char) (text : List Char) : List Char → List Char × List Char
  | c :: cs =>
    if c != quote then (text, c :: cs)
    else
      match cs with
      | d :: ds => if d = quote then (text ++ [quote, quote], ds) else (text ++ [quote], d :: ds)
      | [] => (text ++ [quote], [])
  | [] => (text, [])

private def dropNewline : List Char → List Char
  | '\n' :: cs => cs
  | cs => cs

/-- A quoted text, if one begins here; it fails if it does not end. -/
def quotedText? : List Char → Option (Option (String × List Char))
  | '"' :: '"' :: '"' :: cs =>
    some do
      let cs := dropNewline cs
      let (text, rest) ← basicText true (cs.length + 1) [] cs
      let (text, rest) := extraQuotes '"' text rest
      return (String.ofList text, rest)
  | '"' :: cs =>
    some ((basicText false (cs.length + 1) [] cs).map fun (text, rest) =>
      (String.ofList text, rest))
  | '\'' :: '\'' :: '\'' :: cs =>
    some do
      let (text, rest) ← literalLines (dropNewline cs)
      let (text, rest) := extraQuotes '\'' text rest
      return (String.ofList text, rest)
  | '\'' :: cs =>
    some ((literalText cs).map fun (text, rest) => (String.ofList text, rest))
  | _ => none

/-- A dotted key as its parts. -/
abbrev Key := List String

def isBareKeyChar (c : Char) : Bool := c.isAlphanum || c = '-' || c = '_'

def isKeyStart (c : Char) : Bool := isBareKeyChar c || c = '"' || c = '\''

/-- One part of a key: bare or quoted on one line. -/
def keyPart : List Char → Option (String × List Char)
  | '"' :: cs =>
    (basicText false (cs.length + 1) [] cs).map fun (text, rest) => (String.ofList text, rest)
  | '\'' :: cs => (literalText cs).map fun (text, rest) => (String.ofList text, rest)
  | cs =>
    let part := cs.takeWhile isBareKeyChar
    if part.isEmpty then none else some (String.ofList part, cs.dropWhile isBareKeyChar)

/-- A key and the blanks after it. -/
def key : Nat → List Char → Option (Key × List Char)
  | 0, _ => none
  | fuel + 1, cs => do
    let (part, rest) ← keyPart cs
    match skipSpace rest with
    | '.' :: rest =>
      let (parts, rest) ← key fuel (skipSpace rest)
      return (part :: parts, rest)
    | rest => return ([part], rest)

end ImportGuard.Toml
