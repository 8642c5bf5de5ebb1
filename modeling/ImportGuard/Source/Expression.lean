import ImportGuard.Text.Letter
import ImportGuard.Tree

namespace ImportGuard.Source

/-- A place on a line: what is ahead, and how many bytes are behind. -/
structure Spot where
  rest : List Char
  column : Nat

namespace Spot

def forward (s : Spot) (n : Nat) : Spot where
  rest := s.rest.drop n
  column := (s.rest.take n).foldl (fun k c => k + c.utf8Size) s.column

def skipSpaces (s : Spot) : Spot := s.forward (s.rest.takeWhile (· = ' ')).length

/-- Skips a character and the spaces after it, if it is here. -/
def skip? (s : Spot) (c : Char) : Option Spot :=
  if s.rest.head? == some c then some (s.forward 1).skipSpaces else none

def isAt (s : Spot) (c : Char) : Bool := s.rest.head? == some c

end Spot

def isNameChar (c : Char) : Bool := Text.isWord c.toNat

/-- A name and the spaces after it. -/
def name? (s : Spot) : Option (String × Spot) :=
  let run := s.rest.takeWhile isNameChar
  match run with
  | c :: _ =>
    if Text.isDigit c.toNat then none
    else some (String.ofList run, (s.forward run.length).skipSpaces)
  | [] => none

/-- The word of a keyword argument with its equals sign. -/
def keyword? (s : Spot) : Option (String × Spot) := do
  let (word, next) ← name? s
  if next.isAt '=' && !(next.forward 1).isAt '=' then some (word, (next.forward 1).skipSpaces)
  else none

/-- The length of a quoted text with its quotes. -/
def quotedLength (quote : Char) : List Char → Nat
  | [] => 0
  | '\\' :: _ :: cs => 2 + quotedLength quote cs
  | c :: cs => if c = quote then 1 else 1 + quotedLength quote cs

/-- An argument of a call or a class, perhaps with a keyword. -/
structure Argument where
  keyword : Option String
  value : Tree

mutual

/-- Reads an expression and the spaces after it. -/
def expression (line : Int) : Nat → Spot → Option (Tree × Spot)
  | 0, _ => none
  | fuel + 1, s => do
    let (first, next) ← atom line fuel s
    return trailers line s.column fuel first next

/-- Reads an expression up to its first attribute, call or subscript. -/
def atom (line : Int) : Nat → Spot → Option (Tree × Spot)
  | 0, _ => none
  | fuel + 1, s =>
    match s.rest with
    | [] => none
    | c :: cs =>
      if c = '(' then do
        let (inner, next) ← expression line fuel (s.forward 1).skipSpaces
        return (inner, ← next.skip? ')')
      else if c = '\'' || c = '"' then
        some (.constant, (s.forward (1 + quotedLength c cs)).skipSpaces)
      else if Text.isDigit c.toNat then
        some (.constant, (s.forward (s.rest.takeWhile isNameChar).length).skipSpaces)
      else do
        let (word, next) ← name? s
        if word == "lambda" then
          let (defaults, next) ← parameters line fuel ':' next
          let (body, next) ← expression line fuel next
          return (.lambda defaults body, next)
        else return (.name word, next)

/-- Reads the attributes, calls and subscripts after an expression that began at a column. -/
def trailers (line : Int) (column : Nat) : Nat → Tree → Spot → Tree × Spot
  | 0, t, s => (t, s)
  | fuel + 1, t, s =>
    if s.isAt '.' then
      match name? (s.forward 1).skipSpaces with
      | some (word, next) => trailers line column fuel (.attr t word) next
      | none => (t, s)
    else if s.isAt '(' then
      match arguments line fuel (s.forward 1).skipSpaces with
      | some (args, next) =>
        let positional := (args.filter (·.keyword.isNone)).map (·.value)
        let keywords := (args.filter (·.keyword.isSome)).map (·.value)
        trailers line column fuel (.callWith ⟨line, column⟩ t positional keywords) next
      | none => (t, s)
    else if s.isAt '[' then
      match expression line fuel (s.forward 1).skipSpaces with
      | some (index, next) =>
        match next.skip? ']' with
        | some next => trailers line column fuel (.subscript t index) next
        | none => (t, s)
      | none => (t, s)
    else (t, s)

/-- Reads arguments up to the closing bracket. -/
def arguments (line : Int) : Nat → Spot → Option (List Argument × Spot)
  | 0, _ => none
  | fuel + 1, s =>
    match s.skip? ')' with
    | some next => some ([], next)
    | none => do
      let (word, start) := match keyword? s with
        | some (word, next) => (some word, next)
        | none => (none, s)
      let (value, next) ← expression line fuel start
      match next.skip? ',' with
      | some next =>
        let (more, next) ← arguments line fuel next
        return (⟨word, value⟩ :: more, next)
      | none => return ([⟨word, value⟩], ← next.skip? ')')

/-- Reads parameters up to a closing character, and gives their default values. -/
def parameters (line : Int) : Nat → Char → Spot → Option (List Tree × Spot)
  | 0, _, _ => none
  | fuel + 1, close, s =>
    match s.skip? close with
    | some next => some ([], next)
    | none => do
      let (defaults, next) ← match keyword? s with
        | some (_, next) => do
          let (value, next) ← expression line fuel next
          pure ([value], next)
        | none => do
          let (_, next) ← name? s
          pure ([], next)
      match next.skip? ',' with
      | some next =>
        let (more, next) ← parameters line fuel close next
        return (defaults ++ more, next)
      | none => return (defaults, ← next.skip? close)

end

/-- More steps than reading from here can take. -/
def Spot.fuel (s : Spot) : Nat := 4 * s.rest.length + 8

end ImportGuard.Source
