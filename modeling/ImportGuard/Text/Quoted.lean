import ImportGuard.Text.Printable

namespace ImportGuard.Text

/-- The `n` lowest hexadecimal digits of a number, highest first. -/
def hexDigits : Nat → Nat → List Char
  | 0, _ => []
  | n + 1, c => hexDigits n (c / 16) ++ [Nat.digitChar (c % 16)]

namespace Quoted

def quoteFor (cs : List Char) : Char :=
  if cs.contains '\'' && !cs.contains '"' then '"' else '\''

def escape (quote c : Char) : List Char :=
  if c = quote || c = '\\' then ['\\', c]
  else if c = '\n' then ['\\', 'n']
  else if c = '\r' then ['\\', 'r']
  else if c = '\t' then ['\\', 't']
  else if isPrintable c.toNat then [c]
  else if c.toNat < 0x100 then '\\' :: 'x' :: hexDigits 2 c.toNat
  else if c.toNat < 0x10000 then '\\' :: 'u' :: hexDigits 4 c.toNat
  else '\\' :: 'U' :: hexDigits 8 c.toNat

def encode (cs : List Char) : List Char :=
  let quote := quoteFor cs
  quote :: cs.flatMap (escape quote) ++ [quote]

/-- A byte as a character, escaped if it does not print as one. -/
def escapeByte (quote : Char) (b : UInt8) : List Char :=
  if b.toNat < 0x7f then escape quote (Char.ofNat b.toNat)
  else '\\' :: 'x' :: hexDigits 2 b.toNat

def encodeBytes (bs : List UInt8) : List Char :=
  let quote := quoteFor (bs.map fun b => Char.ofNat b.toNat)
  'b' :: quote :: bs.flatMap (escapeByte quote) ++ [quote]

end Quoted

/-- The text between quotes: single ones unless it has a single quote and no double one. The
backslash, the quote and what does not print are escaped. -/
def quote (s : String) : String := String.ofList (Quoted.encode s.toList)

/-- Bytes between quotes behind a mark, with the escapes of texts. -/
def quoteBytes (bs : List UInt8) : String := String.ofList (Quoted.encodeBytes bs)

end ImportGuard.Text
