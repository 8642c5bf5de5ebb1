import ImportGuard.Lint

namespace ImportGuard.Program

open Files (Disk Location Path)

/-- The path of a place, from the root of all files. -/
def pathOf (l : Location) : String := Path.toText { slashes := 1, parts := l }

/-- The content of a file, if it can be read. -/
def readFile? (l : Location) : IO (Option ByteArray) := do
  try
    return some (← IO.FS.readBinFile (pathOf l))
  catch _ => return none

/-- Brings a file into the tree, if it is there. -/
def bring (d : Disk) (l : Location) : IO Disk := do
  match ← readFile? l with
  | some bytes => return d.write l bytes
  | none => return d

/-- The places that decide about a file: itself, and the marks of the packages above it. -/
def relevant (l : Location) : List Location :=
  l :: (Location.outwards l.dropLast).map (· ++ [packageFile])

/-- Brings in the project files above a directory and the files that a command names. -/
def gather (cwd : Location) (command : Command) : IO Disk := do
  let projects := (Location.outwards cwd).map (· ++ [Project.fileName])
  let named := match command with
    | .check request => request.paths.filterMap fun p => Location.resolve? cwd (.parse p)
    | _ => []
  (projects ++ named.flatMap relevant).foldlM bring (({} : Disk).makeDirectory cwd)

def usage : String :=
  "Usage: forbid-imports check PATHS... [options]\n       forbid-imports explain\n"

/-- Prints the result of a run and gives its status. -/
def conclude (result : Except Failure Lint.Result) : IO UInt32 := do
  match result with
  | .error f =>
    IO.eprintln f.message
    return 1
  | .ok r =>
    for e in r.events do
      if e.level = .warning then IO.eprintln e.message
    for line in r.output do IO.println line
    return UInt32.ofNat r.status

end ImportGuard.Program

open ImportGuard in
def main (arguments : List String) : IO UInt32 := do
  let cwd := (Files.Path.parse (← IO.currentDir).toString).parts
  let command := Command.parse arguments
  if command = .help then IO.print Program.usage
  if command = .misuse then IO.eprint Program.usage
  Program.conclude (Lint.run (← Program.gather cwd command) cwd arguments)
