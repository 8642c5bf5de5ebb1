import ImportGuard.Toml.Lexeme
import ImportGuard.Value

namespace ImportGuard.Toml

open Decimal (Binary)

/-- A number of exactly `n` decimal digits. -/
def decimalNumber : Nat → Nat → List Char → Option (Nat × List Char)
  | 0, value, cs => some (value, cs)
  | _ + 1, _, [] => none
  | n + 1, value, c :: cs =>
    if c.isDigit then decimalNumber n (value * 10 + (c.toNat - '0'.toNat)) cs else none

/-- Two digits that give a number between two bounds. -/
def twoDigits (low high : Nat) (cs : List Char) : Option (Nat × List Char) := do
  let (n, rest) ← decimalNumber 2 0 cs
  if low ≤ n && n ≤ high then some (n, rest) else none

def mark (c : Char) : List Char → Option (List Char)
  | [] => none
  | d :: cs => if d = c then some cs else none

def date (cs : List Char) : Option (Date × List Char) := do
  let (year, cs) ← decimalNumber 4 0 cs
  let (month, cs) ← twoDigits 1 12 (← mark '-' cs)
  let (day, cs) ← twoDigits 1 31 (← mark '-' cs)
  return (⟨year, month, day⟩, cs)

/-- Digits after a point as microseconds; further digits are dropped. -/
def fraction : List Char → Nat × List Char
  | '.' :: cs =>
    let digits := cs.takeWhile Char.isDigit
    if digits.isEmpty then (0, '.' :: cs)
    else
      let six := (digits ++ List.replicate 6 '0').take 6
      (six.foldl (fun n c => n * 10 + (c.toNat - '0'.toNat)) 0, cs.dropWhile Char.isDigit)
  | cs => (0, cs)

def time (cs : List Char) : Option (Time × List Char) := do
  let (hour, cs) ← twoDigits 0 23 cs
  let (minute, cs) ← twoDigits 0 59 (← mark ':' cs)
  let (second, cs) ← twoDigits 0 59 (← mark ':' cs)
  let (microsecond, cs) := fraction cs
  return (⟨hour, minute, second, microsecond⟩, cs)

private def signedZone (negative : Bool) (cs : List Char) : Option (Zone × List Char) := do
  let (hours, cs) ← twoDigits 0 23 cs
  let (minutes, cs) ← twoDigits 0 59 (← mark ':' cs)
  let total : Int := hours * 60 + minutes
  return (.offset (if negative then -total else total), cs)

def zone (cs : List Char) : Option Zone × List Char :=
  let read := match cs with
    | 'Z' :: rest | 'z' :: rest => some (Zone.universal, rest)
    | '+' :: rest => signedZone false rest
    | '-' :: rest => signedZone true rest
    | _ => none
  match read with
  | some (zone, rest) => (some zone, rest)
  | none => (none, cs)

/-- A time after the letter or blank that parts it from its date. -/
private def timeOfDate : List Char → Option (Time × List Char)
  | c :: cs => if c = 'T' || c = 't' || c = ' ' then time cs else none
  | [] => none

/-- A date, alone or with a time; it fails if the calendar has no such day. -/
def dateValue? (cs : List Char) : Option (Option (Value × List Char)) :=
  (date cs).map fun (d, rest) =>
    match d.check with
    | .error _ => none
    | .ok () =>
      match timeOfDate rest with
      | some (t, rest) =>
        let (z, rest) := zone rest
        some (.datetime d t z, rest)
      | none => some (.date d, rest)

/-- Digits with single low lines between them. -/
def digitRun (isDigit : Char → Bool) : List Char → List Char × List Char
  | '_' :: c :: cs =>
    if isDigit c then let (ds, rest) := digitRun isDigit cs; (c :: ds, rest)
    else ([], '_' :: c :: cs)
  | c :: cs =>
    if isDigit c then let (ds, rest) := digitRun isDigit cs; (c :: ds, rest) else ([], c :: cs)
  | [] => ([], [])

/-- The same, beginning with a digit. -/
def digits (isDigit : Char → Bool) : List Char → Option (List Char × List Char)
  | [] => none
  | c :: cs =>
    if isDigit c then let (ds, rest) := digitRun isDigit cs; some (c :: ds, rest) else none

def ofDigits (base : Nat) (ds : List Char) : Nat :=
  ds.foldl (fun n c => n * base + (hexValue? c).getD 0) 0

/-- A number with a base mark. -/
def basedNumber : List Char → Option (Value × List Char)
  | '0' :: 'x' :: cs =>
    (digits (fun c => (hexValue? c).isSome) cs).map fun (ds, rest) => (.int (ofDigits 16 ds), rest)
  | '0' :: 'b' :: cs =>
    (digits (fun c => c = '0' || c = '1') cs).map fun (ds, rest) => (.int (ofDigits 2 ds), rest)
  | '0' :: 'o' :: cs =>
    (digits (fun c => '0' ≤ c && c ≤ '7') cs).map fun (ds, rest) => (.int (ofDigits 8 ds), rest)
  | _ => none

def sign : List Char → Bool × List Char
  | '+' :: cs => (false, cs)
  | '-' :: cs => (true, cs)
  | cs => (false, cs)

/-- Zero alone, or digits that do not begin with zero. -/
def wholePart : List Char → Option (List Char × List Char)
  | '0' :: cs => some (['0'], cs)
  | cs => digits Char.isDigit cs

private def fractionPart : List Char → Option (List Char × List Char)
  | '.' :: cs => digits Char.isDigit cs
  | _ => none

private def exponentPart : List Char → Option (Int × List Char)
  | c :: cs =>
    if c = 'e' || c = 'E' then
      let (negative, cs) := sign cs
      (digits Char.isDigit cs).map fun (ds, rest) =>
        let n : Int := ofDigits 10 ds
        (if negative then -n else n, rest)
    else none
  | [] => none

/-- A decimal integer, or a double if it has a fraction or an exponent. How many digits an integer
has is not limited here. -/
def decimal (cs : List Char) : Option (Value × List Char) := do
  let (negative, cs) := sign cs
  let (whole, cs) ← wholePart cs
  let places := fractionPart cs
  let cs := (places.map Prod.snd).getD cs
  let power := exponentPart cs
  let cs := (power.map Prod.snd).getD cs
  if places.isNone && power.isNone then
    let n : Int := ofDigits 10 whole
    return (.int (if negative then -n else n), cs)
  else
    let places := (places.map Prod.fst).getD []
    let power := (power.map Prod.fst).getD 0
    let x := Binary.ofDecimal negative (ofDigits 10 (whole ++ places)) (power - places.length)
    return (.float x, cs)

/-- The words for doubles that are not finite. -/
def specialNumber (cs : List Char) : Option (Value × List Char) :=
  let (negative, rest) := sign cs
  match rest with
  | 'i' :: 'n' :: 'f' :: rest => some (.float (.infinite negative), rest)
  | 'n' :: 'a' :: 'n' :: rest => some (.float .nan, rest)
  | _ => none

/-- A truth value, a date, a time or a number. -/
def scalar (cs : List Char) : Option (Value × List Char) :=
  match cs with
  | 't' :: 'r' :: 'u' :: 'e' :: rest => some (.bool true, rest)
  | 'f' :: 'a' :: 'l' :: 's' :: 'e' :: rest => some (.bool false, rest)
  | _ =>
    match dateValue? cs with
    | some read => read
    | none =>
      match time cs with
      | some (t, rest) => some (.time t, rest)
      | none => (basedNumber cs).or ((decimal cs).or (specialNumber cs))

end ImportGuard.Toml
