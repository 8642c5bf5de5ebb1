import ImportGuard.Pattern
import ImportGuard.Scope

namespace ImportGuard

/-- A forbidden import or call in scope. -/
structure Violation where
  line : Int
  pattern : String
  name : String
  node : Option NodeRef := none
  deriving DecidableEq, Repr

namespace Violation

def code : String := "W9601"

def messageKey : String := "forbid.certain.imports"

/-- The arguments of the message template. -/
def arguments (v : Violation) : List String := [v.pattern, v.name]

end Violation

structure Rule where
  patterns : PatternSet
  deriving Repr

/-- What a visit gives: reports, the state after it, and what is logged. -/
structure Outcome where
  violations : List Violation := []
  scope : Scope
  events : List Event := []
  deriving DecidableEq, Repr

namespace Rule

def ofOptions (o : RuleOptions) : Except Failure Rule := return ⟨← PatternSet.ofOptions o⟩

/-- A rule acts only if all of its patterns are set. -/
def isActive (r : Rule) : Bool := r.patterns.isComplete

/-- The kinds of record that the rule looks at. -/
def kinds (r : Rule) : List RecordKind := if r.isActive then RecordKind.all else []

def forbidSource (r : Rule) : Option String := r.patterns.forbid.map (·.source)

def excludeSource (r : Rule) : Option String := r.patterns.exclude.map (·.source)

/-- Whether a set pattern matches the whole name. -/
def selects (pattern : Option Regex.Pattern) (name : String) : Bool :=
  pattern.any (·.fullMatch name)

/-- Whether the name is forbidden and not excluded. -/
def forbidden (r : Rule) (name : String) : Bool :=
  match r.patterns.forbid, r.patterns.exclude with
  | some forbid, some exclude => forbid.fullMatch name && !exclude.fullMatch name
  | _, _ => false

/-- The same for a name that may be missing, which no set pattern can be asked about. -/
def forbiddenName (r : Rule) (name : Option String) : Except Failure Bool :=
  if r.patterns.forbid.isSome && r.patterns.exclude.isSome then
    match name with
    | some name => return r.forbidden name
    | none => throw .missingName
  else return false

def violation (r : Rule) (i : Import) : Violation where
  line := i.line
  pattern := r.forbidSource.getD ""
  name := i.name
  node := i.node

def visitPackage (r : Rule) (name : String) (s : Scope) : Outcome where
  scope := { s with packageMatches := selects r.patterns.package name }

/-- A selected class of a selected package brings out the imports that wait. -/
def visitClass (r : Rule) (name : String) (s : Scope) : Outcome :=
  let s := { s with classMatches := selects r.patterns.className name }
  if s.inScope && !s.pending.isEmpty then
    let (imports, rest) := s.pending.flush
    { violations := imports.map r.violation
      scope := { s with pending := rest }
      events := [.reporting name imports.length] }
  else { scope := s }

def visitImport (r : Rule) (i : Import) (s : Scope) : Outcome :=
  if !r.forbidden i.name then { scope := s }
  else if s.inScope then { violations := [r.violation i], scope := s }
  else
    { scope := { s with pending := s.pending.defer i }
      events := [i.deferring] }

/-- Only calls under a dotted path are looked at. -/
def visitCall (r : Rule) (i : Import) (dotted : Bool) (s : Scope) : Outcome :=
  if s.inScope && dotted && !i.name.isEmpty && r.forbidden i.name then
    { violations := [r.violation i], scope := s }
  else { scope := s }

/-- What an active rule does with a record. A package, class or import without a name is refused,
and a call without one is passed over. -/
def apply (r : Rule) (s : Scope) : Record → Except Failure Outcome
  | .package _ (some name) _ => return r.visitPackage name s
  | .className _ (some name) _ => return r.visitClass name s
  | .importName line (some name) node => return r.visitImport ⟨line, name, node⟩ s
  | .call line (some name) dotted node => return r.visitCall ⟨line, name, node⟩ dotted s
  | .call _ none _ _ => return { scope := s }
  | .package _ none _ | .className _ none _ | .importName _ none _ => throw .missingName

/-- Visits a record. Anything else, and every record if the rule does not act, is refused. -/
def visit (r : Rule) (v : Visited) (s : Scope) : Except Failure Outcome :=
  match v with
  | .record record =>
    if r.kinds.contains record.kind then r.apply s record
    else throw (.wrongNode v.kindTag v.quoted)
  | .other _ => throw (.wrongNode v.kindTag v.quoted)

/-- The state at the beginning of a file. -/
def beginFile : Scope := {}

/-- Drops the imports that still wait at the end of a file. -/
def endFile (s : Scope) : Outcome :=
  let (imports, rest) := s.pending.flush
  { scope := { s with pending := rest }
    events := imports.map Import.discarding }

end Rule

end ImportGuard
