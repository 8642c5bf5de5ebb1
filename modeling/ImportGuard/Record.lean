import ImportGuard.Value

namespace ImportGuard

/-- The kinds of node that a report can point to. -/
inductive NodeKind
  | module
  | importNames
  | importFrom
  | classDef
  | call
  deriving DecidableEq, Repr

/-- A node of a module: its kind and where it begins. -/
structure NodeRef where
  kind : NodeKind
  line : Int
  column : Nat := 0
  deriving DecidableEq, Repr

inductive RecordKind
  | package
  | className
  | importName
  | instantiation
  deriving DecidableEq, Repr

namespace RecordKind

def all : List RecordKind := [className, importName, instantiation, package]

/-- The name of the kind in answers. -/
def label : RecordKind → String
  | package => "package"
  | className => "class"
  | importName => "import"
  | instantiation => "instantiation"

/-- The name of the kind in messages. -/
def tag : RecordKind → String
  | package => "NodeKind.PACKAGE"
  | className => "NodeKind.CLASS"
  | importName => "NodeKind.IMPORT"
  | instantiation => "NodeKind.INSTANTIATION"

end RecordKind

/-- One fact about a module. A call is `dotted` if its callee is an attribute; its name is then the
full path, if there is one. -/
inductive Record
  | package (line : Int) (name : Option String) (node : Option NodeRef)
  | className (line : Int) (name : Option String) (node : Option NodeRef)
  | importName (line : Int) (name : Option String) (node : Option NodeRef)
  | call (line : Int) (name : Option String) (dotted : Bool) (node : Option NodeRef)
  deriving DecidableEq, Repr

namespace Record

def kind : Record → RecordKind
  | package _ _ _ => .package
  | className _ _ _ => .className
  | importName _ _ _ => .importName
  | call _ _ _ _ => .instantiation

def line : Record → Int
  | package line _ _ | className line _ _ | importName line _ _ | call line _ _ _ => line

def name : Record → Option String
  | package _ name _ | className _ name _ | importName _ name _ | call _ name _ _ => name

/-- Whether two records say the same, wherever they come from. -/
def agrees : Record → Record → Bool
  | package l n _, package l' n' _ => l == l' && n == n'
  | className l n _, className l' n' _ => l == l' && n == n'
  | importName l n _, importName l' n' _ => l == l' && n == n'
  | call l n d _, call l' n' d' _ => l == l' && n == n' && d == d'
  | _, _ => false

private def quotedName (name : Option String) : String :=
  ((name.map Value.text).getD .null).quoted

private def fields (type : String) (line : Int) (name : Option String) (more : String) : String :=
  type ++ "(line=" ++ toString line ++ ", name=" ++ quotedName name ++ more ++ ")"

/-- A record as it is shown in messages. -/
def quoted : Record → String
  | package line name _ => fields "PackageDeclaration" line name ""
  | className line name _ => fields "ClassDeclaration" line name ""
  | importName line name _ => fields "ImportDeclaration" line name ""
  | call line name dotted _ =>
    fields "Instantiation" line name (", dotted=" ++ (Value.bool dotted).quoted)

end Record

/-- What a rule can be given: a record, or something else. -/
inductive Visited
  | record (r : Record)
  | other (v : Value)

namespace Visited

def kind? : Visited → Option RecordKind
  | record r => some r.kind
  | other _ => none

def quoted : Visited → String
  | record r => r.quoted
  | other v => v.quoted

/-- Whether two things are equal; a record never equals anything else. -/
def agrees : Visited → Visited → Bool
  | record r, record s => r.agrees s
  | other v, other w => v.same w
  | _, _ => false

/-- What a message calls the kind of the thing. -/
def kindTag : Visited → String
  | record r => r.kind.tag
  | other v => v.kindName

end Visited

end ImportGuard
