import ImportGuard.Log
import ImportGuard.Record

namespace ImportGuard

/-- A forbidden import: where it stands and what it names. -/
structure Import where
  line : Int
  name : String
  node : Option NodeRef := none
  deriving DecidableEq, Repr

/-- What is logged when an import begins to wait. -/
def Import.deferring (i : Import) : Event := .deferring i.name i.line

/-- What is logged when an import has waited in vain. -/
def Import.discarding (i : Import) : Event := .discarding i.name i.line

/-- Imports that wait, in the order in which they were met. -/
structure Pending where
  entries : List Import := []
  deriving DecidableEq, Repr

namespace Pending

def defer (p : Pending) (i : Import) : Pending := ⟨p.entries ++ [i]⟩

/-- Hands out all entries and leaves none. -/
def flush (p : Pending) : List Import × Pending := (p.entries, {})

def size (p : Pending) : Nat := p.entries.length

def isEmpty (p : Pending) : Bool := p.entries.isEmpty

/-- Flushes once for each entry that was there at the start, and pairs the entry with what came
out. -/
def flushEach (p : Pending) : List (Import × List Import) × Pending :=
  p.entries.foldl (fun (acc, q) i => let (out, q) := q.flush; (acc ++ [(i, out)], q)) ([], p)

end Pending

structure Scope where
  packageMatches : Bool := false
  classMatches : Bool := false
  pending : Pending := {}
  deriving DecidableEq, Repr

namespace Scope

def inScope (s : Scope) : Bool := s.packageMatches && s.classMatches

end Scope

end ImportGuard
