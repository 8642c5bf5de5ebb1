import ImportGuard.Text.CodeSet

namespace ImportGuard.Text

/-- Separators and the controls that act as white space, as of Unicode 14.0. -/
def blanks : CodeSet where
  bounds :=
    [9, 14, 28, 33, 133, 134, 160, 161, 5760, 5761, 8192, 8203, 8232, 8234, 8239, 8240, 8287,
     8288, 12288, 12289]

def isBlank (c : Nat) : Bool := blanks.contains c

/-- Drops blank characters at both ends. -/
def trimBlank (cs : List Char) : List Char :=
  let front := cs.dropWhile fun c => isBlank c.toNat
  (front.reverse.dropWhile fun c => isBlank c.toNat).reverse

end ImportGuard.Text
