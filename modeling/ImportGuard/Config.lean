import ImportGuard.Log
import ImportGuard.Pattern
import ImportGuard.Value

namespace ImportGuard

namespace Slot

/-- The key of the option with low lines. -/
def fieldName : Slot → String
  | package => "package_name_regexp"
  | className => "class_name_regexp"
  | forbid => "forbidden_imports_regexp"
  | exclude => "forbidden_imports_excludes_regexp"

/-- The key of the option with capitals. -/
def camelName : Slot → String
  | package => "packageNameRegexp"
  | className => "classNameRegexp"
  | forbid => "forbiddenImportsRegexp"
  | exclude => "forbiddenImportsExcludesRegexp"

/-- Hyphens as low lines. -/
def underscored (key : String) : String :=
  String.ofList (key.toList.map fun c => if c = '-' then '_' else c)

/-- The option that a key sets, if it sets one. -/
def ofKey? (key : String) : Option Slot :=
  all.find? fun slot => key == slot.camelName || underscored key == slot.fieldName

/-- The option that a key of a table sets; a key that is not a text sets none. -/
def ofValue? : Value → Option Slot
  | .text key => ofKey? key
  | _ => none

end Slot

namespace RuleOptions

def put (o : RuleOptions) (text : String) : Slot → RuleOptions
  | .package => { o with package := some text }
  | .className => { o with className := some text }
  | .forbid => { o with forbid := some text }
  | .exclude => { o with exclude := some text }

end RuleOptions

namespace Config

/-- What is logged about the keys of a table that set no option. -/
def unknownKeys (place : String) (t : Table) : List Event :=
  (t.filter fun e => (Slot.ofValue? e.1).isNone).map fun e => .unknownKey e.1.display place

/-- Reads the options of a table, later keys over earlier ones. -/
def readOptions (place : String) : Table → RuleOptions → Except ConfigError RuleOptions
  | [], o => return o
  | (key, value) :: rest, o =>
    match Slot.ofValue? key with
    | none => readOptions place rest o
    | some slot =>
      match value with
      | .text text => readOptions place rest (o.put text slot)
      | v => throw (.notText place key.display v.kindName)

/-- A list of rules with what was logged while it was read. -/
abbrev Loaded := Logged ConfigError (List RuleOptions)

def entryPlace (index : Nat) : String := "rules[" ++ toString index ++ "]"

/-- The entries under `rules`, from the given index on. -/
def loadEntries : Nat → List Value → Loaded
  | _, [] => ⟨[], .ok []⟩
  | index, .table t :: rest =>
    match readOptions (entryPlace index) t {} with
    | .error e => ⟨[], .error e⟩
    | .ok o =>
      let more := loadEntries (index + 1) rest
      ⟨unknownKeys (entryPlace index) t ++ more.events, more.result.map (o :: ·)⟩
  | index, _ :: _ => ⟨[], .error (.ruleNotTable index)⟩

/-- The table without the key `rules`. -/
def topLevel (t : Table) : Table := t.filter fun e => !e.1.sameKey (.text "rules")

def topPlace : String := "top-level"

/-- The rule that the keys beside `rules` make, if any of them sets an option. -/
def loadTop (t : Table) : Loaded :=
  if t.any fun e => (Slot.ofValue? e.1).isSome then
    match readOptions topPlace t {} with
    | .error e => ⟨[], .error e⟩
    | .ok o => ⟨unknownKeys topPlace t, .ok [o]⟩
  else ⟨unknownKeys topPlace t, .ok []⟩

/-- The rules of a configuration table, in order. -/
def load (t : Table) : Loaded :=
  match (t.get? "rules").getD (.list []) with
  | .list entries =>
    let first := loadEntries 0 entries
    match first.result with
    | .error e => ⟨first.events, .error e⟩
    | .ok rules =>
      let top := loadTop (topLevel t)
      ⟨first.events ++ top.events, top.result.map (rules ++ ·)⟩
  | _ => ⟨[], .error .rulesNotList⟩

end Config

end ImportGuard
