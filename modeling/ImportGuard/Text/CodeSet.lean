namespace ImportGuard.Text

/-- A set of code points: in from the first bound, out from the second, in from the third, … -/
structure CodeSet where
  bounds : List Nat

namespace CodeSet

/-- Whether an odd number of bounds is at or below `c`. -/
def inside : List Nat → Nat → Bool
  | [], _ => false
  | b :: bs, c => b ≤ c && !inside bs c

def contains (s : CodeSet) (c : Nat) : Bool := inside s.bounds c

/-- The first code point of the run of members that `c` lies in. -/
def startFrom? : List Nat → Nat → Option Nat
  | lo :: hi :: bs, c => if c < lo then none else if c < hi then some lo else startFrom? bs c
  | _, _ => none

def runStart? (s : CodeSet) (c : Nat) : Option Nat := startFrom? s.bounds c

end CodeSet

end ImportGuard.Text
