import ImportGuard.Record

namespace ImportGuard

/-- Where a node begins. -/
structure Place where
  line : Int
  column : Nat := 0
  deriving DecidableEq, Repr

/-- Modules as trees. Only names, attributes, calls, imports and classes are told apart; every other
node just holds its children. -/
inductive Tree
  | name (id : String)
  | attr (value : Tree) (id : String)
  | call (place : Place) (callee : Tree) (arguments : List Tree)
  | importNames (place : Place) (names : List String)
  | importFrom (place : Place) (base : Option String) (level : Nat) (names : List String)
  | classDef (place : Place) (id : Option String) (parts : List Tree)
  | other (parts : List Tree)
  deriving Repr, Inhabited

namespace Tree

def constant : Tree := .other []

def subscript (value index : Tree) : Tree := .other [value, index]

def lambda (defaults : List Tree) (body : Tree) : Tree := .other (defaults ++ [body])

def function (decorators defaults body : List Tree) : Tree :=
  .other (decorators ++ defaults ++ body)

/-- A statement that holds at most one expression. -/
def statement (value : Option Tree) : Tree := .other value.toList

/-- An assignment to a name. -/
def assign (target : String) (value : Tree) : Tree := .other [.name target, value]

def conditional (test : Tree) (body otherwise : List Tree) : Tree :=
  .other (test :: body ++ otherwise)

def classWith (place : Place) (id : Option String) (decorators bases keywords body : List Tree) :
    Tree :=
  .classDef place id (decorators ++ bases ++ keywords ++ body)

def callWith (place : Place) (callee : Tree) (arguments keywords : List Tree) : Tree :=
  .call place callee (arguments ++ keywords)

mutual

/-- The node and all nodes below it, each before its children. -/
def preorder : Tree → List Tree
  | name id => [name id]
  | attr value id => attr value id :: preorder value
  | call place callee arguments =>
    call place callee arguments :: (preorder callee ++ preorderAll arguments)
  | importNames place names => [importNames place names]
  | importFrom place base level names => [importFrom place base level names]
  | classDef place id parts => classDef place id parts :: preorderAll parts
  | other parts => other parts :: preorderAll parts

def preorderAll : List Tree → List Tree
  | [] => []
  | t :: ts => preorder t ++ preorderAll ts

end

end Tree

/-- A module: its dotted name, whether it is a package, and its statements. -/
structure Module where
  name : Option String
  isPackage : Bool := false
  /-- What stands beside the file of the module, if its directory is known and is no package. -/
  neighbours : Option (List String) := none
  body : List Tree := []

end ImportGuard
