import ImportGuard.Failure
import ImportGuard.Regex.FullMatch

namespace ImportGuard

open Regex (Pattern)

/-- The pattern texts of one rule; a text may be missing. -/
structure RuleOptions where
  package : Option String := some ""
  className : Option String := some ""
  forbid : Option String := none
  exclude : Option String := none
  deriving DecidableEq, Repr

namespace RuleOptions

/-- The texts in the order package, class, forbidden, excluded. -/
def toList (o : RuleOptions) : List (Option String) := [o.package, o.className, o.forbid, o.exclude]

end RuleOptions

/-- The four patterns of a rule, each of which may be unset. -/
structure PatternSet where
  package : Option Pattern := none
  className : Option Pattern := none
  forbid : Option Pattern := none
  exclude : Option Pattern := none
  deriving Repr

/-- One of the four patterns. -/
inductive Slot
  | package
  | className
  | forbid
  | exclude
  deriving DecidableEq, Repr

namespace Slot

/-- The name of the option that sets the pattern. -/
def optionName : Slot → String
  | package => "package-name-regexp"
  | className => "class-name-regexp"
  | forbid => "forbidden-imports-regexp"
  | exclude => "forbidden-imports-excludes-regexp"

/-- Whether the pattern selects where a rule applies. -/
def isScope : Slot → Bool
  | package | className => true
  | forbid | exclude => false

def all : List Slot := [package, className, forbid, exclude]

end Slot

/-- What an empty scope text stands for. -/
def matchAll : String := ".*"

namespace PatternSet

/-- Compiles a text as it is given. -/
def compileLiteral (option : String) : Option String → Except Failure (Option Pattern)
  | none => return none
  | some text =>
    match Pattern.compile text with
    | .ok pattern => return some pattern
    | .error (.invalid cause pos) => throw (.badPattern option text cause pos)
    | .error error => throw (.patternLimit error)

/-- Compiles a scope text; the empty one selects every name. -/
def compileScope (option : String) : Option String → Except Failure (Option Pattern)
  | none => return none
  | some text => compileLiteral option (some (if text.isEmpty then matchAll else text))

def compile (slot : Slot) (text : Option String) : Except Failure (Option Pattern) :=
  if slot.isScope then compileScope slot.optionName text
  else compileLiteral slot.optionName text

def get (p : PatternSet) : Slot → Option Pattern
  | .package => p.package
  | .className => p.className
  | .forbid => p.forbid
  | .exclude => p.exclude

def put (p : PatternSet) (pattern : Option Pattern) : Slot → PatternSet
  | .package => { p with package := pattern }
  | .className => { p with className := pattern }
  | .forbid => { p with forbid := pattern }
  | .exclude => { p with exclude := pattern }

/-- Sets one pattern from a text and keeps the others. -/
def set (p : PatternSet) (slot : Slot) (text : Option String) : Except Failure PatternSet := do
  return p.put (← compile slot text) slot

/-- Compiles the texts in order, up to the first that is no pattern. -/
def ofOptions (o : RuleOptions) : Except Failure PatternSet := do
  let p ← ({} : PatternSet).set .package o.package
  let p ← p.set .className o.className
  let p ← p.set .forbid o.forbid
  p.set .exclude o.exclude

def isComplete (p : PatternSet) : Bool :=
  p.package.isSome && p.className.isSome && p.forbid.isSome && p.exclude.isSome

/-- The texts of the patterns in the order package, class, forbidden, excluded. -/
def sources (p : PatternSet) : List (Option String) :=
  [p.package, p.className, p.forbid, p.exclude].map (·.map (·.source))

end PatternSet

end ImportGuard
