import ImportGuard.Failure
import ImportGuard.Files.Disk
import ImportGuard.Toml.Document

namespace ImportGuard

open Files (Disk Location Path)

namespace Project

def fileName : String := "pyproject.toml"

/-- The name of the configuration table below `tool`. -/
def tableName : String := "forbid-imports"

/-- The content of the nearest project file at a place or above it. -/
def nearest? (d : Disk) (start : Location) : Option ByteArray :=
  (Location.outwards start).findSome? fun l => d.file? (l ++ [fileName])

/-- The configuration table in a project file. What is missing, empty or no table counts as an empty
one, save that `tool` must not be something else altogether. -/
def tableIn (file : Table) : Except Failure Table :=
  match file.get? "tool" with
  | some (.table tool) =>
    match Table.get? tool tableName with
    | some (.table t) => return t
    | _ => return []
  | some v => if v.isTruthy then throw (.noAttribute v.fullKindName "get") else return []
  | none => return []

/-- The configuration table in the bytes of a project file. -/
def ofBytes (bytes : ByteArray) : Except Failure Table :=
  match String.fromUTF8? bytes with
  | none => throw .badEncoding
  | some text =>
    match Toml.parse text with
    | none => throw .badToml
    | some file => tableIn file

/-- The configuration seen from a place, which need not exist; outside the tree there is none. -/
def load (d : Disk) : Option Location → Except Failure Table
  | none => return []
  | some start =>
    match nearest? d start with
    | none => return []
    | some bytes => ofBytes bytes

end Project

end ImportGuard
