import ImportGuard.Text.Pieces

namespace ImportGuard.Text

namespace Dotted

/-- The parts between dots; there is always at least one. -/
def split (name : String) : List String := (pieces '.' name.toList).map String.ofList

def join (parts : List String) : String := String.ofList (glue '.' (parts.map String.toList))

/-- The number of dots. -/
def dots (name : String) : Nat := (split name).length - 1

/-- The name without its last `n` parts; the first part always stays. -/
def dropLast (n : Nat) (name : String) : String :=
  let parts := split name
  join (parts.take (max 1 (parts.length - n)))

/-- The name before the last dot, or nothing if there is no dot. -/
def parent (name : String) : String := if dots name = 0 then "" else dropLast 1 name

/-- Both names with a dot between them, or just the one that is not empty. -/
def append (base name : String) : String :=
  if base.isEmpty then name
  else if name.isEmpty then base
  else base ++ "." ++ name

end Dotted

end ImportGuard.Text
