import ImportGuard.Naming
import ImportGuard.Rule

namespace ImportGuard

/-- The options as they were set from outside; an option may be absent altogether. -/
structure Settings where
  package : Option (Option String) := none
  className : Option (Option String) := none
  forbid : Option (Option String) := none
  exclude : Option (Option String) := none
  deriving DecidableEq, Repr

namespace Settings

/-- Absent options take their defaults. -/
def toOptions (s : Settings) : RuleOptions where
  package := s.package.getD (some "")
  className := s.className.getD (some "")
  forbid := s.forbid.getD none
  exclude := s.exclude.getD none

def put (s : Settings) (value : Option (Option String)) : Slot → Settings
  | .package => { s with package := value }
  | .className => { s with className := value }
  | .forbid => { s with forbid := value }
  | .exclude => { s with exclude := value }

end Settings

/-- What the checker says on the way. -/
structure Report where
  messages : List Violation := []
  events : List Event := []
  deriving DecidableEq, Repr

namespace Report

def append (a b : Report) : Report := ⟨a.messages ++ b.messages, a.events ++ b.events⟩

instance : Append Report := ⟨append⟩

end Report

structure Checker where
  settings : Settings := {}
  configured : List RuleOptions := []
  rules : List Rule := []
  /-- The rules at work on the open file, each with its scope. -/
  scopes : List (Rule × Scope) := []

namespace Rule

/-- Visits those records whose kind the rule looks at, one after the other. -/
def visitAll (r : Rule) : List Record → Scope → Except Failure (Report × Scope)
  | [], s => return ({}, s)
  | record :: rest, s => do
    if r.kinds.contains record.kind then
      let out ← r.visit (.record record) s
      let (more, s) ← r.visitAll rest out.scope
      return ((⟨out.violations, out.events⟩ : Report) ++ more, s)
    else r.visitAll rest s

end Rule

/-- Gives the records to each rule in turn. -/
def dispatch (records : List Record) :
    List (Rule × Scope) → Except Failure (Report × List (Rule × Scope))
  | [] => return ({}, [])
  | (r, s) :: rest => do
    let (report, s) ← r.visitAll records s
    let (more, rest) ← dispatch records rest
    return (report ++ more, (r, s) :: rest)

namespace Checker

/-- The options of all rules: those set from outside, then the configured ones. -/
def options (c : Checker) : List RuleOptions := c.settings.toOptions :: c.configured

/-- Compiles all rules. The open file keeps those it was entered with. -/
def openRules (c : Checker) : Except Failure Checker :=
  return { c with rules := ← c.options.mapM Rule.ofOptions }

private def send (c : Checker) (records : List Record) : Except Failure (Report × Checker) := do
  let (report, scopes) ← dispatch records c.scopes
  return (report, { c with scopes })

/-- Opens a file: a fresh scope for each rule, then the package. -/
def enter (c : Checker) (m : Module) : Except Failure (Report × Checker) :=
  send { c with scopes := c.rules.map fun r => (r, Rule.beginFile) } [m.packageRecord]

/-- Visits one node. -/
def visit (c : Checker) (m : Module) (t : Tree) : Except Failure (Report × Checker) :=
  c.send (t.records m)

/-- Visits nodes one after the other. -/
def visitAll (m : Module) : List Tree → Checker → Except Failure (Report × Checker)
  | [], c => return ({}, c)
  | t :: ts, c => do
    let (report, c) ← c.visit m t
    let (more, c) ← visitAll m ts c
    return (report ++ more, c)

/-- Visits a node and all nodes below it. -/
def walk (c : Checker) (m : Module) (t : Tree) : Except Failure (Report × Checker) :=
  visitAll m t.preorder c

/-- Closes the file and drops what still waits. -/
def leave (c : Checker) : Report × Checker :=
  ({ events := c.scopes.flatMap fun e => (Rule.endFile e.2).events }, { c with scopes := [] })

/-- Opens a file, walks it and closes it. -/
def checkModule (c : Checker) (m : Module) : Except Failure (Report × Checker) := do
  let (first, c) ← c.enter m
  let (body, c) ← visitAll m (Tree.preorderAll m.body) c
  let (last, c) := c.leave
  return (first ++ body ++ last, c)

end Checker

end ImportGuard
