import ImportGuard.Failure
import ImportGuard.Value

namespace ImportGuard

/-- What every key of a registry entry begins with. -/
def registryDomain : String := "forbid-imports."

/-- The texts of a message: its template, its symbol and what it is about. -/
structure MessageText where
  template : String
  symbol : String
  description : String
  deriving DecidableEq, Repr

namespace MessageText

def defaultTemplate : String := "Import matching forbidden pattern '%s' in this scope: '%s'."

def defaultSymbol : String := "forbid-certain-imports"

def defaultDescription : String := "Forbidden import in scoped package/class."

/-- The value, if it counts as present. -/
def present? (v : Option Value) : Option Value := v.filter Value.isTruthy

/-- The text of a value, unless an integer in it has too many digits. -/
def written (v : Value) : Except Failure String :=
  if v.isWritable then return v.display else throw .excessDigits

/-- The text of a value, or else a default. -/
def writtenOr (default : String) : Option Value → Except Failure String
  | some v => written v
  | none => return default

/-- What an entry is about: its name, or else its description. -/
def subject? (entry : Table) : Option Value :=
  (present? (entry.get? "display_name")).or (present? (entry.get? "short_description"))

/-- The texts that an entry gives, with defaults for those it does not. -/
def ofEntry (entry : Table) : Except Failure MessageText := do
  let template ← writtenOr defaultTemplate (present? (entry.get? "message_template"))
  let symbol ← writtenOr defaultSymbol (present? (entry.get? "symbol"))
  let description ← writtenOr defaultDescription (subject? entry)
  return { template, symbol, description }

end MessageText

namespace Registry

/-- Whether a value is the given text. -/
def isText (text : String) : Option Value → Bool
  | some (.text s) => s == text
  | _ => false

/-- Whether an entry has the text as its symbol or its code. -/
def answersTo (text : String) (entry : Table) : Bool :=
  isText text (entry.get? "symbol") || isText text (entry.get? "code")

/-- Why a key that is not a text stops the search. -/
def refusal : Value → Failure
  | .bytes _ => .textInBytes
  | key => .noAttribute key.fullKindName "startswith"

/-- The first entry with the symbol or code. A key that is not a text stops the search. -/
def search (text : String) : Table → Except Failure (Option Table)
  | [] => return none
  | (.text key, .table entry) :: rest =>
    if registryDomain.toList.isPrefixOf key.toList && answersTo text entry then return some entry
    else search text rest
  | (.text _, _) :: rest => search text rest
  | (key, _) :: _ => throw (refusal key)

/-- The entry under a key, or else the first one with that symbol or code. -/
def entry? (registry : Table) (key : String) : Except Failure (Option Table) :=
  match registry.get? (registryDomain ++ key) with
  | some (.table entry) => return some entry
  | _ => search key registry

/-- The texts of the message under a key. -/
def messageText (registry : Table) (key : String) : Except Failure MessageText := do
  MessageText.ofEntry ((← entry? registry key).getD [])

/-- The messages that are made known to the linter: the one under a key, by its code. -/
def messages (registry : Table) (key code : String) :
    Except Failure (List (String × MessageText)) := do
  return [(code, ← messageText registry key)]

/-- How to mend what the message under a key reports. -/
def instructions (registry : Table) (key : String) : Except Failure String := do
  let entry := (← entry? registry key).getD []
  MessageText.writtenOr "" (entry.get? "manual_instructions")

end Registry

end ImportGuard
