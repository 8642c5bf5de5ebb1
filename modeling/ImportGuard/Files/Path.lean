import ImportGuard.Text.Pieces

namespace ImportGuard.Files

/-- A path: the slashes it begins with, and its parts. Repeated slashes and single dots drop out;
double dots stay. -/
structure Path where
  slashes : Nat := 0
  parts : List String
  deriving DecidableEq, Repr

namespace Path

/-- A path begins with no slash, one or just two; more than two are one. -/
def leadingSlashes : List Char → Nat
  | '/' :: '/' :: '/' :: _ => 1
  | '/' :: '/' :: _ => 2
  | '/' :: _ => 1
  | _ => 0

def parse (s : String) : Path where
  slashes := leadingSlashes s.toList
  parts := ((Text.pieces '/' s.toList).map String.ofList).filter fun p => p != "" && p != "."

def isAbsolute (p : Path) : Bool := p.slashes != 0

def toText (p : Path) : String :=
  if p.slashes = 0 && p.parts.isEmpty then "."
  else
    String.ofList (List.replicate p.slashes '/' ++ Text.glue '/' (p.parts.map String.toList))

end Path

end ImportGuard.Files
