import ImportGuard.Failure
import ImportGuard.Text.Base64
import ImportGuard.Text.Pieces
import ImportGuard.Value
import ImportGuard.Yaml.Cursor

namespace ImportGuard.Yaml

open Decimal (Binary)

/-- The kind of a node. -/
inductive Kind
  | null
  | bool
  | int
  | float
  | binary
  | timestamp
  | text
  | list
  /-- A list of pairs. -/
  | pairs
  | set
  | table
  /-- The key under which another table is merged in. -/
  | merge
  /-- The key of the plain value of a table. -/
  | default
  | other (name : String)
  deriving DecidableEq, Repr

namespace Kind

/-- What the full names of the common kinds begin with. -/
def domain : String := "tag:yaml.org,2002:"

def common : List (String × Kind) :=
  [("null", null), ("bool", bool), ("int", int), ("float", float), ("binary", binary),
   ("timestamp", timestamp), ("str", text), ("seq", list), ("omap", pairs), ("pairs", pairs),
   ("set", set), ("map", table), ("merge", merge), ("value", default)]

/-- The kind with a full name. -/
def ofName (name : String) : Kind :=
  ((common.find? fun e => name == domain ++ e.1).map Prod.snd).getD (.other name)

/-- Whether values of a kind are built from others. -/
def isCompound : Kind → Bool
  | list | pairs | set | table => true
  | _ => false

end Kind

private def isDigitOrLow (c : Char) : Bool := c.isDigit || c = '_'

private def unsigned : List Char → List Char
  | '+' :: cs | '-' :: cs => cs
  | cs => cs

/-- Parts of a number to base sixty: a colon, and one digit or two up to 59. -/
def sixties : Nat → List Char → Option (List Char)
  | 0, _ => none
  | fuel + 1, cs =>
    let next := match cs with
      | ':' :: a :: b :: rest =>
        if '0' ≤ a && a ≤ '5' && b.isDigit then some rest
        else if a.isDigit then some (b :: rest)
        else none
      | [':', a] => if a.isDigit then some [] else none
      | _ => none
    match next with
    | some rest => ((sixties fuel rest).or (some rest))
    | none => none

private def isExponent (cs : List Char) : Bool :=
  match cs with
  | [] => true
  | e :: s :: ds =>
    (e = 'e' || e = 'E') && (s = '+' || s = '-') && !ds.isEmpty && ds.all Char.isDigit
  | _ => false

def isInt (cs : List Char) : Bool :=
  match unsigned cs with
  | '0' :: 'b' :: ds => !ds.isEmpty && ds.all fun c => c = '0' || c = '1' || c = '_'
  | '0' :: 'x' :: ds =>
    !ds.isEmpty && ds.all fun c =>
      c.isDigit || ('a' ≤ c && c ≤ 'f') || ('A' ≤ c && c ≤ 'F') || c = '_'
  | '0' :: ds => ds.all fun c => ('0' ≤ c && c ≤ '7') || c = '_'
  | d :: ds =>
    d.isDigit &&
      (let rest := ds.dropWhile isDigitOrLow
       rest.isEmpty || sixties (rest.length + 1) rest == some [])
  | [] => false

private def isInfinity (cs : List Char) : Bool :=
  ["inf", "Inf", "INF"].contains (String.ofList cs)

private def isNotNumber (cs : List Char) : Bool :=
  ["nan", "NaN", "NAN"].contains (String.ofList cs)

/-- Digits, a point, and more digits with an exponent; the point must be there. -/
private def isDecimal (cs : List Char) : Bool :=
  match cs with
  | d :: ds =>
    d.isDigit &&
      (let rest := ds.dropWhile isDigitOrLow
       match rest with
       | '.' :: rest => isExponent (rest.dropWhile isDigitOrLow)
       | _ =>
         match sixties (rest.length + 1) rest with
         | some ('.' :: rest) => rest.all isDigitOrLow
         | _ => false)
  | [] => false

def isFloat (cs : List Char) : Bool :=
  isDecimal (unsigned cs) ||
    match cs with
    | '.' :: d :: ds =>
      (d.isDigit && isExponent (ds.dropWhile isDigitOrLow)) || isNotNumber (d :: ds) ||
        isInfinity (d :: ds)
    | _ =>
      match unsigned cs with
      | '.' :: rest => isInfinity rest
      | _ => false

/-- The fields of a timestamp. -/
structure Timestamp where
  date : Date
  /-- Whether month and day have two digits each. -/
  full : Bool
  time : Option (Time × Option Zone)

private def number (cs : List Char) : Nat :=
  cs.foldl (fun n c => n * 10 + (c.toNat - '0'.toNat)) 0

/-- A run of digits whose length lies between two bounds. -/
private def digits (least most : Nat) (cs : List Char) : Option (List Char × List Char) :=
  let ds := (cs.take most).takeWhile Char.isDigit
  if least ≤ ds.length then some (ds, cs.drop ds.length) else none

private def after (mark : Char) : List Char → Option (List Char)
  | [] => none
  | c :: cs => if c = mark then some cs else none

/-- The end of a timestamp: blanks and an offset, or nothing. -/
private def zone? (cs : List Char) : Option (Option Zone) :=
  if cs.isEmpty then some none
  else
    match cs.dropWhile isBlank with
    | ['Z'] => some (some .universal)
    | sign :: rest =>
      if sign = '+' || sign = '-' then do
        let (hours, rest) ← digits 1 2 rest
        let minutes ←
          if rest.isEmpty then some []
          else do
            let (minutes, rest) ← digits 2 2 (← after ':' rest)
            if rest.isEmpty then some minutes else none
        let total : Int := number hours * 60 + number minutes
        return some (.offset (if sign = '-' then -total else total))
      else none
    | [] => none

/-- Digits after a point as microseconds. -/
private def fraction : List Char → Nat × List Char
  | '.' :: cs =>
    let ds := cs.takeWhile Char.isDigit
    (number ((ds ++ List.replicate 6 '0').take 6), cs.drop ds.length)
  | cs => (0, cs)

private def timeOfDay? (cs : List Char) : Option (Time × Option Zone) := do
  let (hour, cs) ← digits 1 2 cs
  let (minute, cs) ← digits 2 2 (← after ':' cs)
  let (second, cs) ← digits 2 2 (← after ':' cs)
  let (microsecond, cs) := fraction cs
  let zone ← zone? cs
  return (⟨number hour, number minute, number second, microsecond⟩, zone)

private def timePart? : List Char → Option (Time × Option Zone)
  | c :: cs =>
    if c = 'T' || c = 't' then timeOfDay? cs
    else if isBlank c then timeOfDay? (cs.dropWhile isBlank)
    else none
  | [] => none

def Timestamp.ofChars? (cs : List Char) : Option Timestamp := do
  let (year, cs) ← digits 4 4 cs
  let (month, cs) ← digits 1 2 (← after '-' cs)
  let (day, cs) ← digits 1 2 (← after '-' cs)
  let date : Date := ⟨number year, number month, number day⟩
  let full := month.length == 2 && day.length == 2
  if cs.isEmpty then return ⟨date, full, none⟩
  else return ⟨date, full, some (← timePart? cs)⟩

/-- A date on its own must have all its digits. -/
def isTimestamp (cs : List Char) : Bool :=
  (Timestamp.ofChars? cs).any fun t => t.full || t.time.isSome

def trueWords : List String := ["yes", "Yes", "YES", "true", "True", "TRUE", "on", "On", "ON"]

def falseWords : List String := ["no", "No", "NO", "false", "False", "FALSE", "off", "Off", "OFF"]

def nullWords : List String := ["", "~", "null", "Null", "NULL"]

/-- The kind that the look of a plain text gives. -/
def Kind.ofPlain (s : String) : Kind :=
  let cs := s.toList
  if (trueWords ++ falseWords).contains s then .bool
  else if isFloat cs then .float
  else if isInt cs then .int
  else if s == "<<" then .merge
  else if nullWords.contains s then .null
  else if isTimestamp cs then .timestamp
  else if s == "=" then .default
  else if ["!", "&", "*"].contains s then .other (domain ++ "yaml")
  else .text

/-- The value of a digit in bases up to sixteen. -/
private def digitIn? (base : Nat) (c : Char) : Option Nat :=
  let d :=
    if c.isDigit then c.toNat - '0'.toNat
    else if 'a' ≤ c && c ≤ 'z' then c.toNat - 'a'.toNat + 10
    else if 'A' ≤ c && c ≤ 'Z' then c.toNat - 'A'.toNat + 10
    else base
  if d < base then some d else none

/-- The number that digits are in a base. Of decimal ones there may not be too many. -/
private def numberIn (base : Nat) (cs : List Char) : Except Failure Nat :=
  let bad := Failure.badScalar (.integer base (String.ofList cs))
  let count := (cs.takeWhile Char.isDigit).length
  if cs.isEmpty then throw bad
  else if base = 10 && Decimal.maxDigits < count then throw (.badScalar (.digits count))
  else cs.foldlM (fun n c =>
    match digitIn? base c with
    | some d => return n * base + d
    | none => throw bad) 0

private def sign (cs : List Char) : Bool × List Char :=
  match cs with
  | '-' :: cs => (true, cs)
  | '+' :: cs => (false, cs)
  | cs => (false, cs)

/-- The pieces of a text between colons. -/
private def colonPieces (cs : List Char) : List (List Char) := Text.pieces ':' cs

/-- An integer in binary, octal, decimal, hexadecimal or to base sixty. -/
def intValue (s : String) : Except Failure Value := do
  let (negative, cs) := sign (s.toList.filter (· != '_'))
  let n ← match cs with
    | ['0'] => pure 0
    | '0' :: 'b' :: ds => numberIn 2 ds
    | '0' :: 'x' :: ds => numberIn 16 ds
    | '0' :: _ => numberIn 8 cs
    | _ =>
      (colonPieces cs).foldlM (fun n piece => return n * 60 + (← numberIn 10 piece)) 0
  return .int (if negative then -(n : Int) else n)

private def floatOf (cs : List Char) : Except Failure Binary :=
  match Binary.ofText? (String.ofList cs) with
  | some x => return x
  | none => throw (.badScalar (.float (String.ofList cs)))

/-- A sum of doubles to base sixty, each step rounded. -/
private def sixtiesValue (pieces : List (List Char)) : Except Failure Binary := do
  let digits ← pieces.mapM floatOf
  return (digits.reverse.foldl (fun (sum, base) d =>
    (Binary.add sum (Binary.mul d (.ofNat base)), base * 60)) (Binary.zero false, 1)).1

/-- A decimal, an infinity, no number, or a decimal to base sixty. -/
def floatValue (s : String) : Except Failure Value := do
  let (negative, cs) := sign ((s.toList.filter (· != '_')).map Char.toLower)
  let x ←
    if cs == ['.', 'i', 'n', 'f'] then pure (Binary.infinite false)
    else if cs == ['.', 'n', 'a', 'n'] then pure Binary.nan
    else if cs.contains ':' then sixtiesValue (colonPieces cs)
    else floatOf cs
  return .float (if negative then x.neg else x)

private def inCalendar (check : Except Calendar.Error Unit) : Except Failure Unit :=
  check.mapError .badCalendar

def timestampValue (s : String) : Except Failure Value :=
  match Timestamp.ofChars? s.toList with
  | none => throw (.noAttribute "NoneType" "groupdict")
  | some t =>
    match t.time with
    | none => do
      inCalendar t.date.check
      return .date t.date
    | some (time, zone) => do
      if let some zone := zone then inCalendar zone.check
      inCalendar t.date.check
      inCalendar time.check
      return .datetime t.date time zone

private def lowerTrue : List String := ["yes", "true", "on"]

private def lowerFalse : List String := ["no", "false", "off"]

def boolValue (s : String) : Except Failure Value :=
  let word := String.ofList (s.toList.map Char.toLower)
  if lowerTrue.contains word then return .bool true
  else if lowerFalse.contains word then return .bool false
  else throw (.badScalar (.truth word))

/-- Bytes in letters, which have no others beside them than those of ASCII. -/
def binaryValue (s : String) : Except Failure Value :=
  if s.toList.all (·.toNat < 0x80) then
    match Text.base64Bytes? s.toList with
    | some bs => return .bytes bs
    | none => throw .badYaml
  else throw .badYaml

/-- The value of a text of a kind. -/
def scalarValue (kind : Kind) (s : String) : Except Failure Value :=
  match kind with
  | .null => return .null
  | .bool => boolValue s
  | .int => intValue s
  | .float => floatValue s
  | .binary => binaryValue s
  | .timestamp => timestampValue s
  | .text => return .text s
  | .list | .pairs | .set | .table | .merge | .default | .other _ => throw .badYaml

end ImportGuard.Yaml
