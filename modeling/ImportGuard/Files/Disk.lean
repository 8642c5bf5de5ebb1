import ImportGuard.Files.Path

namespace ImportGuard.Files

/-- A place in the tree: the names on the way from its root. -/
abbrev Location := List String

namespace Location

/-- The place and all places above it, from the root inwards. -/
def inwards (l : Location) : List Location := (List.range (l.length + 1)).map l.take

/-- The place and all places above it, from the inside out. -/
def outwards (l : Location) : List Location := (inwards l).reverse

end Location

inductive Entry
  | file (bytes : ByteArray)
  | directory

namespace Entry

def isDirectory : Entry → Bool
  | directory => true
  | file _ => false

end Entry

/-- What stands where. The root itself is always a directory. -/
structure Disk where
  entries : List (Location × Entry) := []

namespace Disk

def entry? (d : Disk) (l : Location) : Option Entry :=
  if l.isEmpty then some .directory else d.entries.lookup l

def isDirectory (d : Disk) (l : Location) : Bool := (d.entry? l).any Entry.isDirectory

/-- The content of a regular file. -/
def file? (d : Disk) (l : Location) : Option ByteArray :=
  match d.entry? l with
  | some (.file bytes) => some bytes
  | _ => none

def remove (d : Disk) (l : Location) : Disk := ⟨d.entries.filter fun e => e.1 != l⟩

def put (d : Disk) (l : Location) (e : Entry) : Disk := ⟨(l, e) :: (d.remove l).entries⟩

/-- Makes a directory, and those above it, where nothing stands yet. -/
def makeDirectory (d : Disk) (l : Location) : Disk :=
  (Location.inwards l).foldl (fun d part =>
    if (d.entry? part).isSome then d else d.put part .directory) d

def write (d : Disk) (l : Location) (bytes : ByteArray) : Disk :=
  (d.makeDirectory l.dropLast).put l (.file bytes)

/-- The names in a directory. -/
def names (d : Disk) (l : Location) : List String :=
  d.entries.filterMap fun e =>
    match e.1.getLast? with
    | some name => if e.1.dropLast == l then some name else none
    | none => none

end Disk

namespace Location

/-- Follows names upwards and downwards, whether or not anything stands there. There is no way out
of the root. -/
def follow : Location → List String → Option Location
  | l, [] => some l
  | l, name :: rest =>
    if name == ".." then (if l.isEmpty then none else follow l.dropLast rest)
    else follow (l ++ [name]) rest

/-- Where a path leads from a directory. Absolute paths lead out of the tree. -/
def resolve? (l : Location) (p : Path) : Option Location :=
  if p.isAbsolute then none else follow l p.parts

end Location

namespace Disk

/-- Follows names through directories that are there. -/
def walk (d : Disk) : Location → List String → Option Location
  | l, [] => if (d.entry? l).isSome then some l else none
  | l, name :: rest =>
    if !d.isDirectory l then none
    else if name == ".." then (if l.isEmpty then none else d.walk l.dropLast rest)
    else d.walk (l ++ [name]) rest

/-- What stands at a path as seen from a directory. -/
def find? (d : Disk) (l : Location) (p : Path) : Option (Location × Entry) :=
  if p.isAbsolute then none
  else (d.walk l p.parts).bind fun l => (d.entry? l).map fun e => (l, e)

end Disk

end ImportGuard.Files
