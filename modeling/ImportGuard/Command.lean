import ImportGuard.Config
import ImportGuard.Files.Path
import ImportGuard.Registry
import ImportGuard.Rule

namespace ImportGuard

open Files (Path)

/-- A request to check files. Options that are not given are missing. -/
structure Request where
  paths : List String := []
  options : RuleOptions := { package := none, className := none }
  deriving DecidableEq, Repr

/-- What a command line asks for. -/
inductive Command
  | check (request : Request)
  | explain
  | help
  /-- It asks for nothing that there is. -/
  | misuse
  deriving DecidableEq, Repr

namespace Request

/-- The arguments that load the checker and switch everything else off. -/
def baseArguments : List String :=
  ["--load-plugins=forbid_imports.infrastructure.checker", "--disable=all",
   "--enable=" ++ MessageText.defaultSymbol, "--score=n"]

/-- The arguments for options with their values; those without one are left out. -/
def optionArguments (options : List (String × Option String)) : List String :=
  options.filterMap fun (name, value) => value.map fun v => "--" ++ name ++ "=" ++ v

/-- All arguments for the linter: options first, paths last. -/
def argumentsFor (paths : List String) (options : List (String × Option String)) : List String :=
  baseArguments ++ optionArguments options ++ paths

/-- The options of a request under their names. -/
def namedOptions (r : Request) : List (String × Option String) :=
  (Slot.all.map Slot.optionName).zip r.options.toList

def arguments (r : Request) : List String := argumentsFor r.paths r.namedOptions

end Request

namespace Command

/-- How an argument reads where options are looked for. -/
inductive Argument
  /-- Two hyphens alone: no options follow. -/
  | endOfOptions
  /-- An option by its name, perhaps with a value after an equals sign. -/
  | option (name : String) (value : Option String)
  | word (text : String)
  deriving DecidableEq, Repr

def Argument.parse (s : String) : Argument :=
  match s.toList with
  | ['-', '-'] => .endOfOptions
  | '-' :: c :: cs =>
    let body := '-' :: c :: cs
    if c = '-' && body.contains '=' then
      .option (String.ofList (body.takeWhile (· != '=')))
        (some (String.ofList ((body.dropWhile (· != '=')).drop 1)))
    else .option s none
  | _ => .word s

def helpOption : String := "--help"

/-- The option slot with a name on the command line. -/
def slot? (name : String) : Option Slot :=
  Slot.all.find? fun slot => name == "--" ++ slot.optionName

/-- What has been read of the arguments of a command. -/
structure Partial where
  request : Request := {}
  help : Bool := false

def Partial.addWord (p : Partial) (word : String) : Partial :=
  { p with request := { p.request with paths := p.request.paths ++ [word] } }

def Partial.setOption (p : Partial) (slot : Slot) (value : String) : Partial :=
  { p with request := { p.request with options := p.request.options.put value slot } }

/-- Reads the arguments of a command whose options are those in `known`. Options and words may be
mixed; an unknown option or a missing value fails. -/
def readArguments (known : List Slot) : List String → Partial → Option Partial
  | [], p => some p
  | arg :: rest, p =>
    match Argument.parse arg with
    | .endOfOptions => some (rest.foldl Partial.addWord p)
    | .word text => readArguments known rest (p.addWord text)
    | .option name value =>
      if name == helpOption then
        if value.isSome then none else readArguments known rest { p with help := true }
      else
        match (slot? name).filter known.contains, value, rest with
        | some slot, some v, rest => readArguments known rest (p.setOption slot v)
        | some slot, none, v :: rest => readArguments known rest (p.setOption slot v)
        | _, _, _ => none

/-- The arguments of `check`; at least one path is needed. -/
def parseCheck (args : List String) : Command :=
  match readArguments Slot.all args {} with
  | none => .misuse
  | some p =>
    if p.help then .help
    else if p.request.paths.isEmpty then .misuse
    else .check { p.request with paths := p.request.paths.map fun s => (Path.parse s).toText }

/-- The arguments of `explain`, which takes none. -/
def parseExplain (args : List String) : Command :=
  match readArguments [] args {} with
  | none => .misuse
  | some p => if p.help then .help else if p.request.paths.isEmpty then .explain else .misuse

/-- Reads the options before a command: whether help is asked for, and the arguments after them. An
unknown option fails. -/
def readLeading : List String → Option (Bool × List String)
  | [] => some (false, [])
  | arg :: rest =>
    match Argument.parse arg with
    | .endOfOptions => some (false, rest)
    | .word _ => some (false, arg :: rest)
    | .option name value =>
      if name == helpOption && value.isNone then
        (readLeading rest).map fun (_, rest) => (true, rest)
      else none

/-- The command by its name. What is no command may still be a request for help. -/
def parseNamed : List String → Command
  | [] => .misuse
  | name :: args =>
    if name == "check" then parseCheck args
    else if name == "explain" then parseExplain args
    else
      match readLeading (name :: args) with
      | some (true, _) => .help
      | _ => .misuse

/-- Reads a command line: options before the command, its name, and its arguments. -/
def parse (args : List String) : Command :=
  match readLeading args with
  | none => .misuse
  | some (true, _) => .help
  | some (false, rest) => parseNamed rest

/-- The status with which a command ends, if it does not check. -/
def idleStatus : Command → Nat
  | misuse => 2
  | _ => 0

end Command

/-- What explaining prints: what the check reports, and how to mend it. -/
def explanation (registry : Table) : Except Failure (List String) := do
  let entry := (← Registry.entry? registry Violation.messageKey).getD []
  let title ← MessageText.writtenOr "" (entry.get? "display_name")
  let head := Violation.code ++ " (" ++ MessageText.defaultSymbol ++ "): " ++ title
  let instructions ← Registry.instructions registry Violation.messageKey
  return if instructions.isEmpty then [head] else [head, "", instructions]

/-- Printed texts, each with the end of its line. -/
def printed (texts : List String) : String := String.join (texts.map (· ++ "\n"))

end ImportGuard
