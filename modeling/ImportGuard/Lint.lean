import ImportGuard.Checker
import ImportGuard.Command
import ImportGuard.Services
import ImportGuard.Source.File

namespace ImportGuard

open Files (Disk Location Path)

/-- The name of the file that makes a directory a package. -/
def packageFile : String := "__init__.py"

namespace Module

/-- Whether a directory is a package. -/
def isPackageAt (d : Disk) (l : Location) : Bool := (d.entry? (l ++ [packageFile])).isSome

/-- The names of the packages around a directory, from the outside in. -/
def packagesAround (d : Disk) (l : Location) : List String :=
  let inside := (Location.outwards l).takeWhile fun l => !l.isEmpty && isPackageAt d l
  l.drop (l.length - inside.length)

/-- A file name without its extension. -/
def stem (name : String) : String :=
  match (Text.pieces '.' name.toList).dropLast with
  | [] => name
  | parts => String.ofList (Text.glue '.' parts)

/-- The module in a file. -/
def ofFile (d : Disk) (l : Location) (text : String) : Module :=
  let name := l.getLastD ""
  let directory := l.dropLast
  let packages := packagesAround d directory
  let isPackage := name == packageFile
  { name := some (Text.Dotted.join (if isPackage then packages else packages ++ [stem name]))
    isPackage
    neighbours := if isPackageAt d directory then none else some (d.names directory)
    body := Source.parse text }

end Module

namespace Lint

/-- What a run of the program gives. -/
structure Result where
  status : Nat
  output : List String := []
  events : List Event := []
  deriving DecidableEq, Repr

/-- Drops a quotation mark from each end of an option, where there is one. -/
def unquote (s : String) : Except Failure String :=
  let isQuote (c : Char) : Bool := c = '\'' || c = '"'
  match s.toList with
  | [] => return ""
  | c :: cs =>
    let body := if isQuote c then cs else c :: cs
    match body.getLast? with
    | none => throw .loneQuote
    | some last => return String.ofList (if isQuote last then body.dropLast else body)

/-- The options as the linter takes them over. -/
def settings (options : RuleOptions) : Except Failure Settings :=
  Slot.all.zip options.toList |>.foldlM (fun s (slot, text) =>
    match text with
    | none => return s
    | some text => return s.put (some (some (← unquote text))) slot) {}

/-- A template with texts put in for its marks. -/
def fill : List Char → List String → List Char
  | '%' :: 's' :: cs, text :: texts => text.toList ++ fill cs texts
  | '%' :: '%' :: cs, texts => '%' :: fill cs texts
  | c :: cs, texts => c :: fill cs texts
  | [], _ => []

/-- The part of a place below a directory. -/
def relative (cwd l : Location) : Location := if cwd.isPrefixOf l then l.drop cwd.length else l

/-- The line of the report for a violation. -/
def reportLine (texts : MessageText) (path : String) (v : Violation) : String :=
  let column := (v.node.map (·.column)).getD 0
  path ++ ":" ++ toString v.line ++ ":" ++ toString column ++ ": " ++ Violation.code ++ ": " ++
    String.ofList (fill texts.template.toList v.arguments) ++ " (" ++ texts.symbol ++ ")"

def moduleLine (m : Module) : String := "************* Module " ++ m.name.getD ""

/-- The files at paths, each once, in the order in which they are named first. -/
def filesAt (d : Disk) (cwd : Location) (paths : List String) : List (Location × ByteArray) :=
  let found := paths.filterMap fun p =>
    match d.find? cwd (Path.parse p) with
    | some (l, .file bytes) => some (l, bytes)
    | _ => none
  found.foldl (fun kept f => if kept.any (·.1 == f.1) then kept else kept ++ [f]) []

/-- What has been reported so far. -/
structure Progress where
  checker : Checker
  /-- The modules that have a heading already. -/
  named : List (Option String) := []
  output : List String := []
  events : List Event := []

/-- Checks one file. -/
def checkFile (d : Disk) (cwd : Location) (texts : MessageText) (p : Progress)
    (file : Location × ByteArray) : Except Failure Progress := do
  let m := Module.ofFile d file.1 ((String.fromUTF8? file.2).getD "")
  let (report, checker) ← p.checker.checkModule m
  let path := Path.toText { parts := relative cwd file.1 }
  let heading :=
    if report.messages.isEmpty || p.named.contains m.name then [] else [moduleLine m]
  return {
    checker
    named := if report.messages.isEmpty then p.named else m.name :: p.named
    output := p.output ++ heading ++ report.messages.map (reportLine texts path)
    events := p.events ++ report.events }

/-- The status of a run that reports something. -/
def reportedStatus : Nat := 4

/-- Checks the files of a request. -/
def check (d : Disk) (cwd : Location) (rules : List RuleOptions) (registry : Table)
    (request : Request) : Except Failure Result := do
  let checker : Checker := { settings := ← settings request.options, configured := rules }
  let texts ← Registry.messageText registry Violation.messageKey
  let start : Progress := { checker := ← checker.openRules }
  let done ← (filesAt d cwd request.paths).foldlM (checkFile d cwd texts) start
  return {
    status := if done.output.isEmpty then 0 else reportedStatus
    output := done.output.flatMap fun line => (Text.pieces '\n' line.toList).map String.ofList
    events := .running request.arguments :: done.events }

/-- Runs a command line in a directory. -/
def run (d : Disk) (cwd : Location) (arguments : List String) : Except Failure Result := do
  let reply := Session.rules { disk := d, cwd }
  let (_, rules) ← reply.result
  let registry := Registry.builtIn
  let result ← match Command.parse arguments with
    | .check request => check d cwd rules registry request
    | .explain => do
      let texts ← explanation registry
      pure { status := 0,
             output := texts.flatMap fun t => (Text.pieces '\n' t.toList).map String.ofList }
    | command => pure { status := command.idleStatus }
  return { result with events := reply.events ++ result.events }

end Lint

end ImportGuard
