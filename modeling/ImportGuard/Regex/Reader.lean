import ImportGuard.Regex.Error

namespace ImportGuard.Regex

/-- A character, a backslash with the character after it, or a backslash that ends the pattern. -/
inductive Token
  | char (c : Char)
  | escape (c : Char)
  | lone
  deriving DecidableEq, Repr

namespace Token

def text : Token → String
  | char c => String.singleton c
  | escape c => String.ofList ['\\', c]
  | lone => "\\"

def length : Token → Nat
  | char _ => 1
  | escape _ => 2
  | lone => 1

def ofChars : List Char → List Token
  | [] => []
  | ['\\'] => [lone]
  | '\\' :: c :: cs => escape c :: ofChars cs
  | c :: cs => char c :: ofChars cs

end Token

/-- The tokens left, and what has been learned from those before. -/
structure Reader where
  rest : List Token
  pos : Nat := 0
  /-- The groups so far; a group has no width while it is open. -/
  groups : List (Option Width) := []
  names : List (String × Nat) := []
  /-- How many groups there were when the outermost look-behind began. -/
  groupsBeforeLookbehind : Option Nat := none
  /-- The group numbers that conditions ask for, with the place of the first question. -/
  conditions : List (Nat × Nat) := []
  flags : List Flag := []

abbrev Parse := StateT Reader (Except Error)

namespace Parse

/-- Refuses the pattern at the place `back` characters before the next token. -/
def refuse {α : Type} (cause : Cause) (back : Nat) : Parse α := do
  throw (.invalid cause (some ((← get).pos - back)))

def peek : Parse (Option Token) := do return (← get).rest.head?

/-- Refuses a backslash that ends the pattern, if that comes next. -/
def checkNext : Parse Unit := do
  if (← peek) = some .lone then refuse .badEscapeAtEnd 0

def next : Parse (Option Token) := do
  match (← get).rest with
  | [] => return none
  | t :: ts =>
    modify fun r => { r with rest := ts, pos := r.pos + t.length }
    checkNext
    return some t

/-- Takes the character `c` if it comes next. -/
def accept (c : Char) : Parse Bool := do
  if (← peek) = some (.char c) then
    let _ ← next
    return true
  return false

/-- Takes at most `n` characters as long as they pass the test. -/
def takeWhile (p : Char → Bool) : Nat → Parse (List Char)
  | 0 => return []
  | n + 1 => do
    match ← peek with
    | some (.char c) =>
      if p c then
        let _ ← next
        return c :: (← takeWhile p n)
      else return []
    | _ => return []

/-- Takes all the characters that pass the test. -/
def takeAll (p : Char → Bool) : Parse (List Char) := do
  takeWhile p (← get).rest.length

def untilLoop (terminator : Char) (what : String) : Nat → String → Parse String
  | 0, acc => return acc
  | n + 1, acc => do
    match ← next with
    | none =>
      if acc.isEmpty then refuse (.missingName what) 0
      else refuse (.unterminatedName (String.singleton terminator)) acc.length
    | some t =>
      if t = .char terminator then
        if acc.isEmpty then refuse (.missingName what) 1 else return acc
      else untilLoop terminator what n (acc ++ t.text)

/-- Takes a name and the terminator after it. -/
def takeName (terminator : Char) (what : String) : Parse String := do
  untilLoop terminator what ((← get).rest.length + 1) ""

def groupCount : Parse Nat := do return (← get).groups.length

/-- Whether the group is complete at this point. -/
def isClosed (index : Nat) : Parse Bool := do
  return 0 < index && ((← get).groups[index - 1]?.bind id).isSome

/-- In a look-behind, a group can be referred to only if it was complete before. -/
def checkLookbehind (index : Nat) : Parse Unit := do
  match (← get).groupsBeforeLookbehind with
  | none => return
  | some before =>
    unless ← isClosed index do refuse .openGroup 0
    if before < index then refuse .groupInSameLookbehind 0

end Parse

end ImportGuard.Regex
