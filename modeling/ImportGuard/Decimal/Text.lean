import ImportGuard.Text.Letter
import ImportGuard.Text.Blank
import ImportGuard.Decimal.Binary

namespace ImportGuard.Decimal

/-- The most decimal digits with which an integer is read or written. -/
def maxDigits : Nat := 4300

/-- What is said of an integer with more digits, and of how many if it was to be read. -/
def excessMessage (count : Option Nat) : String :=
  let value := (count.map fun n => ": value has " ++ toString n ++ " digits").getD ""
  "Exceeds the limit (" ++ toString maxDigits ++ " digits) for integer string conversion" ++ value ++
    "; use sys.set_int_max_str_digits() to increase the limit"

namespace Digits

private def zeros (n : Nat) : List Char := List.replicate n '0'

/-- Without an exponent, and with at least one digit on each side of the point. -/
def positional (d : Digits) : List Char :=
  if d.power < 0 then
    '0' :: '.' :: zeros (-d.power - 1).toNat ++ d.digits
  else
    let whole := d.power.toNat + 1
    let padded := d.digits ++ zeros (whole - d.digits.length)
    let fraction := padded.drop whole
    padded.take whole ++ '.' :: (if fraction.isEmpty then ['0'] else fraction)

/-- One digit before the point and at least two in the exponent. -/
def scientific (d : Digits) : List Char :=
  let point := match d.digits with
    | [] => []
    | [x] => [x]
    | x :: xs => x :: '.' :: xs
  let exponent := Nat.toDigits 10 d.power.natAbs
  let sign := if d.power < 0 then '-' else '+'
  point ++ 'e' :: sign :: (if exponent.length < 2 then '0' :: exponent else exponent)

end Digits

namespace Binary

def toChars : Binary → List Char
  | nan => ['n', 'a', 'n']
  | infinite negative => (if negative then ['-'] else []) ++ ['i', 'n', 'f']
  | finite negative m e =>
    let sign := if negative then ['-'] else []
    if m = 0 then sign ++ ['0', '.', '0']
    else
      let d := Digits.shortest m e
      sign ++ (if -5 < d.power && d.power < 16 then d.positional else d.scientific)

def toText (b : Binary) : String := String.ofList b.toChars

/-- Decimal digits with single low lines between them, and what follows. -/
def takeDigits : List Char → List Nat × List Char
  | [] => ([], [])
  | c :: cs =>
    match ImportGuard.Text.digitValue? c.toNat with
    | some d => go [d] cs
    | none => ([], c :: cs)
where
  go (acc : List Nat) : List Char → List Nat × List Char
    | [] => (acc.reverse, [])
    | '_' :: c :: cs =>
      match ImportGuard.Text.digitValue? c.toNat with
      | some d => go (d :: acc) cs
      | none => (acc.reverse, '_' :: c :: cs)
    | c :: cs =>
      match ImportGuard.Text.digitValue? c.toNat with
      | some d => go (d :: acc) cs
      | none => (acc.reverse, c :: cs)

private def value (digits : List Nat) : Nat := digits.foldl (fun n d => n * 10 + d) 0

/-- The power of ten after the mark `e`, or zero if there is none. -/
private def exponent? : List Char → Option Int
  | [] => some 0
  | c :: cs =>
    if c = 'e' || c = 'E' then
      let (negative, rest) := match cs with
        | '+' :: r => (false, r)
        | '-' :: r => (true, r)
        | r => (false, r)
      match takeDigits rest with
      | ([], _) => none
      | (ds, []) => some (if negative then -(value ds : Int) else value ds)
      | _ => none
    else none

/-- A decimal without sign: digits on at least one side of the point. -/
private def unsigned? (negative : Bool) (cs : List Char) : Option Binary :=
  let (whole, rest) := takeDigits cs
  let (fraction, rest) := match rest with
    | '.' :: r => takeDigits r
    | r => ([], r)
  if whole.isEmpty && fraction.isEmpty then none
  else do
    let e ← exponent? rest
    return ofDecimal negative (value (whole ++ fraction)) (e - fraction.length)

/-- Reads a decimal, an infinity or the text for no number, with blanks around it and a sign. -/
def ofText? (s : String) : Option Binary :=
  let cs := ImportGuard.Text.trimBlank s.toList
  let (negative, rest) := match cs with
    | '+' :: r => (false, r)
    | '-' :: r => (true, r)
    | r => (false, r)
  let word := String.ofList (rest.map Char.toLower)
  if word == "inf" || word == "infinity" then some (.infinite negative)
  else if word == "nan" then some .nan
  else unsigned? negative rest

end Binary

end ImportGuard.Decimal
