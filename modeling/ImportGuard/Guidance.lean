import ImportGuard.Files.Disk
import ImportGuard.Log
import ImportGuard.Registry
import ImportGuard.Yaml.Document

namespace ImportGuard

open Files (Disk Location Path)

namespace Registry

private def lines (ls : List String) : String := "\n".intercalate ls

private def builtInInstructions : String := lines
  ["The module's package matches package-name-regexp and a class declared in it",
   "matches class-name-regexp, so names matching forbidden-imports-regexp may not",
   "be imported or instantiated here. Every dotted call is checked under its full",
   "dotted path, method calls included: com.api.Check.create() is matched as",
   "\"com.api.Check.create\" and self.api.client.fetch() as \"self.api.client.fetch\".",
   "",
   "Options:",
   "  1. Depend on an abstraction that lives outside the forbidden packages.",
   "  2. Move the code out of the scoped package or class.",
   "  3. If the name is a legitimate exception (for example an error type),",
   "     widen forbidden-imports-excludes-regexp."]

/-- The one entry of the registry that is built in. -/
def builtInEntry : Table :=
  [(.text "code", .text "W9601"),
   (.text "symbol", .text "forbid-certain-imports"),
   (.text "display_name", .text "Forbidden import in scoped package/class."),
   (.text "short_description", .text
     ("An import or fully-qualified instantiation matches the forbidden-imports pattern inside " ++
       "a package/class selected by the scope patterns.")),
   (.text "message_template", .text
     "Import matching forbidden pattern '%s' in this scope: '%s'."),
   (.text "manual_instructions", .text builtInInstructions),
   (.text "references", .list
     [.text "https://pylint.readthedocs.io/en/stable/development_guide/how_tos/plugins.html"])]

/-- The registry that is built in. -/
def builtIn : Table := [(.text "forbid-imports.forbid.certain.imports", .table builtInEntry)]

/-- The registry in the bytes of a file; what is not a table counts as an empty one. -/
def ofBytes (bytes : ByteArray) : Except Failure Table :=
  match String.fromUTF8? bytes with
  | none => throw .badEncoding
  | some text => do
    match ← Yaml.parse text with
    | .table t => return t
    | _ => return []

/-- The registry at a path. One that is missing is empty. -/
def load (d : Disk) (cwd : Location) (path : Path) : Logged Failure Table :=
  match d.find? cwd path with
  | none => { events := [.registryMissing path.toText], result := .ok [] }
  | some (_, .directory) => { result := .error (.isDirectory path.toText) }
  | some (_, .file bytes) => { result := ofBytes bytes }

end Registry

end ImportGuard
