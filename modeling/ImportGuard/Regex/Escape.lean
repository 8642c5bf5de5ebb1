import ImportGuard.Text.CharacterName
import ImportGuard.Regex.Reader

namespace ImportGuard.Regex

open ImportGuard.Text

def isOctal (c : Char) : Bool := '0' ≤ c && c ≤ '7'

def isHex (c : Char) : Bool :=
  c.isDigit || ('a' ≤ c && c ≤ 'f') || ('A' ≤ c && c ≤ 'F')

def hexValue (c : Char) : Nat :=
  if c.isDigit then c.toNat - 48
  else if c.toNat < 97 then c.toNat - 55
  else c.toNat - 87

/-- The number written with the given digits. -/
def number (base : Nat) (digits : List Char) : Nat :=
  digits.foldl (fun n c => n * base + hexValue c) 0

/-- The control characters and the backslash. -/
def controlCode? : Char → Option Nat
  | 'a' => some 7
  | 'b' => some 8
  | 'f' => some 12
  | 'n' => some 10
  | 'r' => some 13
  | 't' => some 9
  | 'v' => some 11
  | '\\' => some 92
  | _ => none

def category? : Char → Option Member
  | 'd' => some (.category .digit false)
  | 'D' => some (.category .digit true)
  | 's' => some (.category .space false)
  | 'S' => some (.category .space true)
  | 'w' => some (.category .word false)
  | 'W' => some (.category .word true)
  | _ => none

def place? : Char → Option Anchor
  | 'A' => some .textStart
  | 'b' => some (.boundary false)
  | 'B' => some (.boundary true)
  | 'Z' => some .textEnd
  | _ => none

namespace Parse

def escapeText (c : Char) (digits : List Char) : String :=
  String.ofList ('\\' :: c :: digits)

/-- Exactly `n` hexadecimal digits after `\x`, `\u` or `\U`. -/
def hexEscape (c : Char) (n : Nat) : Parse Nat := do
  let digits ← takeWhile isHex n
  let text := escapeText c digits
  if digits.length ≠ n then refuse (.incompleteEscape text) (digits.length + 2)
  let code := number 16 digits
  if n = 8 && 0x10FFFF < code then
    if 0x7FFFFFFF < code then throw .codeTooLarge
    refuse (.badEscape text) 10
  return code

def namedEscape : Parse Nat := do
  unless ← accept '\x7b' do refuse .missingBrace 0
  let name ← takeName '\x7d' "character name"
  match codeOfName? name with
  | some code => return code
  | none => refuse (.undefinedCharacter name) (name.length + 4)

/-- The escapes that give a code point by number or name. -/
def codeEscape? (c : Char) : Parse (Option Nat) := do
  match c with
  | 'x' => return some (← hexEscape c 2)
  | 'u' => return some (← hexEscape c 4)
  | 'U' => return some (← hexEscape c 8)
  | 'N' => return some (← namedEscape)
  | _ => return none

/-- The escapes that stand for the character itself: all but ASCII letters and digits. -/
def plainEscape (c : Char) : Parse Nat := do
  if c.isAlphanum then refuse (.badEscape (escapeText c [])) 2
  return c.toNat

/-- An escape inside a set. -/
def setEscape (c : Char) : Parse Member := do
  if let some code := controlCode? c then return .single code
  if let some member := category? c then return member
  if let some code ← codeEscape? c then return .single code
  if isOctal c then
    let digits := c :: (← takeWhile isOctal 2)
    let code := number 8 digits
    if 0o377 < code then
      refuse (.octalOutOfRange (String.ofList ('\\' :: digits))) (digits.length + 1)
    return .single code
  return .single (← plainEscape c)

/-- A reference to the group with the given number. -/
def groupReference (digits : List Char) : Parse Node := do
  let index := number 10 digits
  if index ≤ (← groupCount) then
    unless ← isClosed index do refuse .openGroup (digits.length + 1)
    checkLookbehind index
    return .again index
  refuse (.invalidGroupReference index) digits.length

/-- Three octal digits are a code point; one or two digits are the number of a group. -/
def digitEscape (c : Char) : Parse Node := do
  match ← takeWhile Char.isDigit 1 with
  | [] => groupReference [c]
  | d :: _ =>
    if isOctal c && isOctal d then
      match ← takeWhile isOctal 1 with
      | [] => groupReference [c, d]
      | e :: _ =>
        let code := number 8 [c, d, e]
        if 0o377 < code then refuse (.octalOutOfRange (String.ofList ['\\', c, d, e])) 4
        return .one (.literal code)
    else groupReference [c, d]

/-- An escape outside sets. -/
def escape (c : Char) : Parse Node := do
  if let some place := place? c then return .anchor place
  if let some member := category? c then return .one (.set false [member])
  if let some code := controlCode? c then return .one (.literal code)
  if let some code ← codeEscape? c then return .one (.literal code)
  if c = '0' then
    return .one (.literal (number 8 (← takeWhile isOctal 2)))
  if c.isDigit then digitEscape c
  else return .one (.literal (← plainEscape c))

end Parse

end ImportGuard.Regex
