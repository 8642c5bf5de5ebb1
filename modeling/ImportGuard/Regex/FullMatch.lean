import ImportGuard.Regex.Match
import ImportGuard.Regex.Parser

namespace ImportGuard.Regex

/-- The end of a match of the whole text. -/
def atEnd (text : Subject) : Rest := fun c => if c.pos = text.size then some c else none

namespace Pattern

def fullMatch (p : Pattern) (name : String) : Bool :=
  let text : Subject := (name.toList.map Char.toNat).toArray
  (p.root.run text p.context ⟨0, List.replicate p.groups {}⟩ (atEnd text)).isSome

end Pattern

end ImportGuard.Regex
