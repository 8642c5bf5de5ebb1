namespace ImportGuard.Text

namespace Base64

/-- The six bits that a letter stands for. -/
def sextet? (c : Char) : Option Nat :=
  if 'A' ≤ c && c ≤ 'Z' then some (c.toNat - 'A'.toNat)
  else if 'a' ≤ c && c ≤ 'z' then some (c.toNat - 'a'.toNat + 26)
  else if c.isDigit then some (c.toNat - '0'.toNat + 52)
  else if c = '+' then some 62
  else if c = '/' then some 63
  else none

/-- Reads on after `filled` letters of a group of four and `pads` signs that stand for missing ones.
The bits that no byte has yet are `held`. -/
def decodeFrom (filled held pads : Nat) : List Char → Option (List UInt8)
  | [] => if filled = 0 then some [] else none
  | c :: cs =>
    if c = '=' then
      -- Signs before the second letter of a group say nothing.
      if filled < 2 then decodeFrom filled held pads cs
      else if 4 ≤ filled + pads + 1 then some []
      else decodeFrom filled held (pads + 1) cs
    else
      match sextet? c with
      | none => decodeFrom filled held pads cs
      | some d =>
        if filled = 0 then decodeFrom 1 d 0 cs
        else
          let bits := held * 64 + d
          let unit := 4 ^ (3 - filled)
          (decodeFrom ((filled + 1) % 4) (bits % unit) 0 cs).map (UInt8.ofNat (bits / unit) :: ·)

end Base64

/-- The bytes that letters stand for, six bits each. Other characters are skipped, and what follows
the signs that complete a group is not read. -/
def base64Bytes? (cs : List Char) : Option (List UInt8) := Base64.decodeFrom 0 0 0 cs

end ImportGuard.Text
