import ImportGuard.Text.Dotted
import ImportGuard.Tree

namespace ImportGuard

open Text (Dotted.append Dotted.dots Dotted.dropLast Dotted.parent Dotted.join Dotted.split)

namespace Module

/-- The package that a module belongs to; a package belongs to itself. -/
def packageName (m : Module) : String :=
  let name := m.name.getD ""
  if m.isPackage then name else Dotted.parent name

/-- Whether the module is a file outside packages next to the first part of `base`. Then relative
names start from nothing. -/
def isBeside (m : Module) (base : String) : Bool :=
  !m.isPackage &&
    m.neighbours.any fun entries =>
      base.isEmpty || entries.contains ((Dotted.split base).headD "")

/-- The name that `base` stands for, `level` packages up. There is none if there are not so many
packages. -/
def absolute? (m : Module) (base : String) (level : Nat) : Option String :=
  let name := m.name.getD ""
  let (package, up) :=
    if m.isPackage then (Dotted.dropLast (level - 1) name, level - 1)
    else if m.isBeside base then ("", level - 1)
    else (Dotted.dropLast level name, level)
  if 0 < up && Dotted.dots name < up then none
  else some (Dotted.append package base)

/-- The module that a from-import names. Too high a level is passed over. -/
def importBase (m : Module) (base : Option String) (level : Nat) : String :=
  let base := base.getD ""
  if level = 0 then base else (m.absolute? base level).getD base

end Module

namespace Tree

/-- The full names that an import brings in. A wildcard brings in none. -/
def importedNames (m : Module) : Tree → List String
  | importNames _ names => names
  | importFrom _ base level names =>
    let base := m.importBase base level
    (names.filter (· != "*")).map fun name => if base.isEmpty then name else base ++ "." ++ name
  | _ => []

/-- The parts of a name followed by attributes, last one first. -/
def chain? : Tree → Option (List String)
  | name id => some [id]
  | attr value id => (chain? value).map (id :: ·)
  | _ => none

/-- The dotted name of a callee. -/
def calleeName? (callee : Tree) : Option String :=
  callee.chain?.map fun parts => Dotted.join parts.reverse

def isAttr : Tree → Bool
  | attr _ _ => true
  | _ => false

/-- The record of a call. -/
def callRecord (place : Place) (callee : Tree) : Record :=
  .call place.line callee.calleeName? callee.isAttr (some ⟨.call, place.line, place.column⟩)

/-- The records that a node gives on its own. -/
def records (m : Module) : Tree → List Record
  | importNames place names =>
    (importedNames m (importNames place names)).map fun name =>
      .importName place.line (some name) (some ⟨.importNames, place.line, place.column⟩)
  | importFrom place base level names =>
    (importedNames m (importFrom place base level names)).map fun name =>
      .importName place.line (some name) (some ⟨.importFrom, place.line, place.column⟩)
  | classDef place id _ =>
    [.className place.line (some (id.getD "")) (some ⟨.classDef, place.line, place.column⟩)]
  | call place callee _ => [callRecord place callee]
  | _ => []

end Tree

/-- The record of the package of a module. -/
def Module.packageRecord (m : Module) : Record :=
  .package 0 (some m.packageName) (some ⟨.module, 0, 0⟩)

end ImportGuard
