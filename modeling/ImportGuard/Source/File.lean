import ImportGuard.Source.Expression
import ImportGuard.Text.Lines

namespace ImportGuard.Source

/-- A line that is neither blank nor a comment. -/
structure Line where
  number : Nat
  indent : Nat
  text : List Char

/-- What a line holds. -/
inductive Statement
  | decorator (value : Tree)
  | classHead (place : Place) (name : String) (bases keywords : List Tree)
  | functionHead (defaults : List Tree)
  | simple (t : Tree)

namespace Line

def ofChars? (number : Nat) (cs : List Char) : Option Line :=
  let text := cs.dropWhile (· = ' ')
  match text with
  | [] => none
  | c :: _ =>
    if c = '#' then none else some ⟨number, cs.length - text.length, text⟩

def spot (l : Line) : Spot := ⟨l.text, l.indent⟩

def place (l : Line) : Place := ⟨l.number, l.indent⟩

/-- The place after a keyword, if the line begins with it. -/
def after? (l : Line) (keyword : String) : Option Spot := do
  let (word, next) ← name? l.spot
  if word == keyword then some next else none

end Line

/-- The first words of pieces between commas. -/
def firstWords (cs : List Char) : List String :=
  (Text.pieces ',' cs).map fun piece =>
    String.ofList ((piece.dropWhile (· = ' ')).takeWhile (· != ' '))

def importStatement (l : Line) : Option Statement := do
  let s ← l.after? "import"
  return .simple (.importNames l.place (firstWords s.rest))

def fromStatement (l : Line) : Option Statement := do
  let s ← l.after? "from"
  let level := (s.rest.takeWhile (· = '.')).length
  let s := (s.forward level).skipSpaces
  let base := s.rest.takeWhile fun c => isNameChar c || c = '.'
  -- without dots the keyword cannot be taken for the module
  let (base, s) :=
    if base == "import".toList && level != 0 then (none, s)
    else (some (String.ofList base), (s.forward base.length).skipSpaces)
  let (word, s) ← name? s
  if word != "import" then none
  else return .simple (.importFrom l.place base level (firstWords s.rest))

def decoratorLine (l : Line) : Option Statement := do
  let s ← l.spot.skip? '@'
  let (value, _) ← expression l.number s.fuel s
  return .decorator value

/-- The head of a class. The keyword `metaclass` does not belong to its parts. -/
def classLine (l : Line) : Option Statement := do
  let s ← l.after? "class"
  let (name, s) ← name? s
  let (args, _) ← match s.skip? '(' with
    | some s => arguments l.number s.fuel s
    | none => some ([], s)
  let bases := (args.filter (·.keyword.isNone)).map (·.value)
  let keywords := (args.filter fun a => a.keyword.any (· != "metaclass")).map (·.value)
  return .classHead l.place name bases keywords

def functionLine (l : Line) : Option Statement := do
  let s ← l.after? "def"
  let (_, s) ← name? s
  let s ← s.skip? '('
  let (defaults, _) ← parameters l.number s.fuel ')' s
  return .functionHead defaults

private def expressionAt (l : Line) (s : Spot) : Option Tree :=
  (expression l.number s.fuel s).map Prod.fst

def passStatement (l : Line) : Option Statement := do
  let _ ← l.after? "pass"
  return .simple (.statement none)

def returnStatement (l : Line) : Option Statement := do
  let s ← l.after? "return"
  return .simple (.statement (expressionAt l s))

def assignment (l : Line) : Option Statement := do
  let (target, s) ← keyword? l.spot
  return .simple (.assign target (← expressionAt l s))

def bareExpression (l : Line) : Option Statement := do
  return .simple (.statement (← expressionAt l l.spot))

/-- What a line holds; one that cannot be read holds nothing. -/
def Statement.ofLine (l : Line) : Statement :=
  let readers := [importStatement, fromStatement, decoratorLine, classLine, functionLine,
    passStatement, returnStatement, assignment, bareExpression]
  (readers.findSome? fun read => read l).getD (.simple (.statement none))

/-- Reads statements that stand at least as far in as a column, with the decorators met so far. -/
def block (indent : Nat) : Nat → List Tree → List Line → List Tree × List Line
  | 0, _, lines => ([], lines)
  | _ + 1, _, [] => ([], [])
  | fuel + 1, decorators, l :: rest =>
    if l.indent < indent then ([], l :: rest)
    else
      match Statement.ofLine l with
      | .decorator value => block indent fuel (decorators ++ [value]) rest
      | .classHead place name bases keywords =>
        let (body, rest) := block (l.indent + 1) fuel [] rest
        let (more, rest) := block indent fuel [] rest
        (.classWith place (some name) decorators bases keywords body :: more, rest)
      | .functionHead defaults =>
        let (body, rest) := block (l.indent + 1) fuel [] rest
        let (more, rest) := block indent fuel [] rest
        (.function decorators defaults body :: more, rest)
      | .simple t =>
        let (more, rest) := block indent fuel [] rest
        (t :: more, rest)

/-- The lines of a text that hold statements. -/
def statementLines (cs : List Char) : List Line :=
  ((Text.lines cs).zipIdx 1).filterMap fun (text, number) => Line.ofChars? number text

/-- The statements of a source file. -/
def parse (s : String) : List Tree :=
  let cs := match s.toList with
    | '\ufeff' :: cs => cs
    | cs => cs
  let lines := statementLines cs
  (block 0 (lines.length + 1) [] lines).1

end ImportGuard.Source
