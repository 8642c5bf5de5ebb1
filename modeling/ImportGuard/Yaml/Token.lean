namespace ImportGuard.Yaml

inductive Directive
  | version (major minor : Nat)
  | tag (handle domain : String)
  | other (name : String)
  deriving DecidableEq, Repr

inductive Token
  | directive (d : Directive)
  | documentStart
  | documentEnd
  | listStart
  | tableStart
  | blockEnd
  | flowListStart
  | flowListEnd
  | flowTableStart
  | flowTableEnd
  | item
  | comma
  | key
  | value
  | alias (name : String)
  | anchor (name : String)
  /-- The kind of the node that follows: a suffix below a handle, or a full name. -/
  | tag (handle : Option String) (suffix : String)
  | scalar (text : String) (plain : Bool)
  deriving DecidableEq, Repr

end ImportGuard.Yaml
