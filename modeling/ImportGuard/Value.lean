import ImportGuard.Calendar
import ImportGuard.Decimal.Text
import ImportGuard.Text.Quoted

namespace ImportGuard

/-- The values that configuration and registry files hold. Tables keep the order of their keys. -/
inductive Value
  | null
  | bool (b : Bool)
  | int (n : Int)
  | float (x : Decimal.Binary)
  | text (s : String)
  | bytes (bs : List UInt8)
  | date (d : Date)
  | time (t : Time)
  | datetime (d : Date) (t : Time) (zone : Option Zone)
  | list (items : List Value)
  /-- A set, with its members as they stand in the file. In which order it is shown is open. -/
  | set (members : List Value)
  /-- A key with its value as an item of a list. -/
  | pair (key value : Value)
  | table (entries : List (Value × Value))
  /-- A list, or else a table, where it stands inside itself. -/
  | again (isTable : Bool)
  deriving Repr, Inhabited

/-- An ordered table. -/
abbrev Table := List (Value × Value)

namespace Value

/-- The number that a value is as a key: truth values are zero and one. -/
def integer? : Value → Option Int
  | bool b => some (if b then 1 else 0)
  | int n => some n
  | float (.finite negative m e) =>
    let whole : Option Nat :=
      if 0 ≤ e then some (m * Decimal.twoTo e.toNat)
      else if m % Decimal.twoTo (-e).toNat = 0 then some (m / Decimal.twoTo (-e).toNat)
      else none
    whole.map fun n => if negative then -(n : Int) else n
  | _ => none

/-- Whether two values are the same key of a table. Equal numbers are, whatever their kind. -/
def sameKey (v w : Value) : Bool :=
  match v.integer?, w.integer? with
  | some m, some n => m == n
  | _, _ =>
    match v, w with
    | null, null => true
    | text s, text t => s == t
    | bytes bs, bytes cs => bs == cs
    | float x, float y => x == y && x != .nan
    | date d, date e => d == e
    | time t, time u => t == u
    | datetime d t z, datetime e u y => Calendar.sameMoment d e t u z y
    | _, _ => false

/-- Whether a value counts as present where a missing one takes a default. -/
def isTruthy : Value → Bool
  | null => false
  | bool b => b
  | int n => n != 0
  | float x => !x.isZero
  | text s => !s.isEmpty
  | bytes bs => !bs.isEmpty
  | list items => !items.isEmpty
  | set members => !members.isEmpty
  | table entries => !entries.isEmpty
  | date _ | time _ | datetime _ _ _ | pair _ _ | again _ => true

/-- The name of the kind of a value in messages. -/
def kindName : Value → String
  | null => "NoneType"
  | bool _ => "bool"
  | int _ => "int"
  | float _ => "float"
  | text _ => "str"
  | bytes _ => "bytes"
  | date _ => "date"
  | time _ => "time"
  | datetime _ _ _ => "datetime"
  | list _ | again false => "list"
  | set _ => "set"
  | pair _ _ => "tuple"
  | table _ | again true => "dict"

/-- The name of the kind with the module it belongs to. -/
def fullKindName : Value → String
  | date _ => "datetime.date"
  | time _ => "datetime.time"
  | datetime _ _ _ => "datetime.datetime"
  | v => v.kindName

end Value

namespace Table

/-- The value under a key. -/
def lookup? (t : Table) (key : Value) : Option Value :=
  (List.find? (fun e => e.1.sameKey key) t).map Prod.snd

/-- The value under a text key. -/
def get? (t : Table) (key : String) : Option Value := t.lookup? (.text key)

/-- Replaces the value under a key in its place, or adds the key at the end. -/
def insert : Table → Value → Value → Table
  | [], key, value => [(key, value)]
  | (k, v) :: rest, key, value =>
    if k.sameKey key then (k, value) :: rest else (k, v) :: insert rest key value

def ofList (entries : List (Value × Value)) : Table :=
  entries.foldl (fun t e => t.insert e.1 e.2) []

end Table

namespace Value

mutual

/-- Whether two values are equal. The order of the members of sets and of the keys of tables does
not matter. -/
def same : Value → Value → Bool
  | list vs, list ws => sameItems vs ws
  | set vs, set ws => vs.length == ws.length && vs.all fun v => ws.any v.sameKey
  | pair k v, pair l w => same k l && same v w
  | again b, again c => b == c
  | table es, table fs => es.length == fs.length && sameEntries es fs
  | v, w => v.sameKey w

def sameItems : List Value → List Value → Bool
  | [], [] => true
  | v :: vs, w :: ws => same v w && sameItems vs ws
  | _, _ => false

def sameEntries : List (Value × Value) → List (Value × Value) → Bool
  | [], _ => true
  | (k, v) :: es, fs => (Table.lookup? fs k).any (same v) && sameEntries es fs

end

private def numbers (ns : List Nat) : String := ", ".intercalate (ns.map toString)

private def dateFields (d : Date) : List Nat := [d.year, d.month, d.day]

/-- Seconds are left out if they and the microseconds are zero. -/
private def timeFields (t : Time) : List Nat :=
  [t.hour, t.minute] ++
    (if t.microsecond ≠ 0 then [t.second, t.microsecond]
     else if t.second ≠ 0 then [t.second] else [])

private def zoneField : Option Zone → String
  | none => ""
  | some .universal => ", tzinfo=datetime.timezone.utc"
  | some (.offset 0) => ", tzinfo=datetime.timezone.utc"
  | some (.offset minutes) =>
    ", tzinfo=datetime.timezone(" ++ Calendar.showDuration minutes ++ ")"

mutual

/-- A value as it stands inside a list or a table. -/
def quoted : Value → String
  | null => "None"
  | bool true => "True"
  | bool false => "False"
  | int n => toString n
  | float x => x.toText
  | text s => Text.quote s
  | bytes bs => Text.quoteBytes bs
  | date d => "datetime.date(" ++ numbers (dateFields d) ++ ")"
  | time t => "datetime.time(" ++ numbers (timeFields t) ++ ")"
  | datetime d t zone =>
    "datetime.datetime(" ++ numbers (dateFields d ++ timeFields t) ++ zoneField zone ++ ")"
  | list items => "[" ++ quotedItems items ++ "]"
  | set [] => "set()"
  | set members => "\x7b" ++ quotedItems members ++ "\x7d"
  | pair k v => "(" ++ quoted k ++ ", " ++ quoted v ++ ")"
  | again false => "[...]"
  | again true => "\x7b...\x7d"
  | table entries => "\x7b" ++ quotedEntries entries ++ "\x7d"

def quotedItems : List Value → String
  | [] => ""
  | [v] => quoted v
  | v :: vs => quoted v ++ ", " ++ quotedItems vs

def quotedEntries : List (Value × Value) → String
  | [] => ""
  | [(k, v)] => quoted k ++ ": " ++ quoted v
  | (k, v) :: es => quoted k ++ ": " ++ quoted v ++ ", " ++ quotedEntries es

end

mutual

/-- Whether every integer in a value can be written. How deeply values nest is not limited here. -/
def isWritable : Value → Bool
  | int n => n.natAbs < 10 ^ Decimal.maxDigits
  | list items | set items => itemsWritable items
  | pair k v => k.isWritable && v.isWritable
  | table entries => entriesWritable entries
  | _ => true

def itemsWritable : List Value → Bool
  | [] => true
  | v :: vs => v.isWritable && itemsWritable vs

def entriesWritable : List (Value × Value) → Bool
  | [] => true
  | (k, v) :: es => k.isWritable && v.isWritable && entriesWritable es

end

/-- A value as text: a text as it is, a date or time in figures, and all else as in a list. -/
def display : Value → String
  | text s => s
  | date d => d.iso
  | time t => t.iso
  | datetime d t zone => d.iso ++ " " ++ t.iso ++ (zone.map Zone.iso).getD ""
  | v => v.quoted

end Value

end ImportGuard
