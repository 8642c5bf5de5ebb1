namespace ImportGuard

inductive Level
  | debug
  | warning
  deriving DecidableEq, Repr

/-- A logged event. -/
inductive Event
  | deferring (name : String) (line : Int)
  | discarding (name : String) (line : Int)
  | reporting (className : String) (count : Nat)
  | unknownKey (key place : String)
  | registryMissing (path : String)
  | running (arguments : List String)
  deriving DecidableEq, Repr

namespace Event

def level : Event → Level
  | unknownKey _ _ | registryMissing _ => .warning
  | _ => .debug

def message : Event → String
  | deferring name line =>
    "Deferring forbidden import " ++ name ++ " (line " ++ toString line ++ ")"
  | discarding name line =>
    "Discarding deferred import " ++ name ++ " (line " ++ toString line ++
      "): no class in scope"
  | reporting className count =>
    "Class " ++ className ++ " is in scope; reporting " ++ toString count ++
      " deferred import(s)"
  | unknownKey key place =>
    "Configuration Warning: unknown key '" ++ key ++ "' in [tool.forbid-imports] " ++ place ++
      "."
  | registryMissing path =>
    "Rule registry not found at " ++ path ++ "; using built-in messages."
  | running arguments => "Running pylint " ++ " ".intercalate arguments

end Event

/-- A result with what was logged on the way. What was logged before a failure stays. -/
structure Logged (ε α : Type) where
  events : List Event := []
  result : Except ε α

end ImportGuard
