import ImportGuard.Text.CharacterName.Blocks
import ImportGuard.Text.Pieces

namespace ImportGuard.Text

namespace CharacterName

/-- The names in a list with semicolons. -/
def split (names : String) : List String := (pieces ';' names.toList).map String.ofList

/-- The code point with a name in a block. -/
def inBlock? (name : String) (block : Nat × List String) : Option Nat :=
  ((block.2.flatMap split).findIdx? (· == name)).map (block.1 + ·)

def listed? (name : String) : Option Nat :=
  if name.isEmpty then none
  else
    (blocks.findSome? (inBlock? name)).or
      ((aliases.find? fun e => (split e.2).contains name).map Prod.fst)

/-- The value of an upper-case hexadecimal digit. -/
def upperHex? (c : Char) : Option Nat :=
  if c.isDigit then some (c.toNat - '0'.toNat)
  else if 'A' ≤ c && c ≤ 'F' then some (c.toNat - 'A'.toNat + 10)
  else none

def ideographs : List (Nat × Nat) :=
  [(0x3400, 0x4dbf), (0x4e00, 0x9fff), (0x20000, 0x2a6df), (0x2a700, 0x2b738),
   (0x2b740, 0x2b81d), (0x2b820, 0x2cea1), (0x2ceb0, 0x2ebe0), (0x30000, 0x3134a)]

/-- The rest of a text after a beginning. -/
def after? : List Char → List Char → Option (List Char)
  | [], cs => some cs
  | _ :: _, [] => none
  | a :: start, c :: cs => if a = c then after? start cs else none

def ideograph? (name : String) : Option Nat := do
  let digits ← after? "CJK UNIFIED IDEOGRAPH-".toList name.toList
  if digits.length != 4 && digits.length != 5 then none
  else
    let code ← digits.foldlM (fun n c => (upperHex? c).map (n * 16 + ·)) 0
    if ideographs.any fun r => r.1 ≤ code && code ≤ r.2 then some code else none

def leads : List String :=
  ["G", "GG", "N", "D", "DD", "R", "M", "B", "BB", "S", "SS", "", "J", "JJ", "C", "K", "T", "P",
   "H"]

def vowels : List String :=
  ["A", "AE", "YA", "YAE", "EO", "E", "YEO", "YE", "O", "WA", "WAE", "OE", "YO", "U", "WEO", "WE",
   "WI", "YU", "EU", "YI", "I"]

def tails : List String :=
  ["", "G", "GG", "GS", "N", "NJ", "NH", "D", "L", "LG", "LM", "LB", "LS", "LT", "LP", "LH", "M",
   "B", "BS", "S", "SS", "NG", "J", "C", "K", "T", "P", "H"]

/-- The longest of some spellings that a text begins with: its place and the rest. -/
def longest? (spellings : List String) (cs : List Char) : Option (Nat × List Char) :=
  (spellings.zipIdx.foldl (fun best (spelling, i) =>
    match after? spelling.toList cs with
    | none => best
    | some rest =>
      match best with
      | some (_, other) => if rest.length < other.length then some (i, rest) else best
      | none => some (i, rest)) none)

def syllable? (name : String) : Option Nat := do
  let cs ← after? "HANGUL SYLLABLE ".toList name.toList
  let (lead, cs) ← longest? leads cs
  let (vowel, cs) ← longest? vowels cs
  let (tail, cs) ← longest? tails cs
  if cs.isEmpty then some (0xac00 + (lead * 21 + vowel) * 28 + tail) else none

end CharacterName

/-- The code point with the given name. Listed names may be in upper or lower case. -/
def codeOfName? (name : String) : Option Nat :=
  ((CharacterName.syllable? name).or (CharacterName.ideograph? name)).or
    (CharacterName.listed? (String.ofList (name.toList.map Char.toUpper)))

end ImportGuard.Text
