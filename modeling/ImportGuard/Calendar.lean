namespace ImportGuard

structure Date where
  year : Nat
  month : Nat
  day : Nat
  deriving DecidableEq, Repr

structure Time where
  hour : Nat
  minute : Nat
  second : Nat
  microsecond : Nat := 0
  deriving DecidableEq, Repr

/-- Minutes ahead of universal time; `universal` is universal time itself, not an offset of zero
minutes from it. -/
inductive Zone
  | universal
  | offset (minutes : Int)
  deriving DecidableEq, Repr

def isLeap (year : Nat) : Bool :=
  year % 4 == 0 && (year % 100 != 0 || year % 400 == 0)

def daysInMonth (year month : Nat) : Nat :=
  if month == 2 then (if isLeap year then 29 else 28)
  else if month == 4 || month == 6 || month == 9 || month == 11 then 30
  else 31

namespace Calendar

/-- A field out of its range. -/
inductive Error
  | year (year : Nat)
  | month
  | day
  | hour
  | minute
  | second
  | zone (minutes : Int)
  deriving DecidableEq, Repr

/-- A duration in days and seconds, as it is shown in messages and values. -/
def showDuration (minutes : Int) : String :=
  let days := minutes.fdiv 1440
  let seconds := (minutes - days * 1440) * 60
  let parts := (if days = 0 then [] else ["days=" ++ toString days]) ++
    (if seconds = 0 then [] else ["seconds=" ++ toString seconds])
  "datetime.timedelta(" ++ (if parts.isEmpty then "0" else ", ".intercalate parts) ++ ")"

def Error.message : Error → String
  | year y => "year " ++ toString y ++ " is out of range"
  | month => "month must be in 1..12"
  | day => "day is out of range for month"
  | hour => "hour must be in 0..23"
  | minute => "minute must be in 0..59"
  | second => "second must be in 0..59"
  | zone minutes =>
    "offset must be a timedelta strictly between -timedelta(hours=24) and timedelta(hours=24), not "
      ++ showDuration minutes ++ "."

end Calendar

namespace Date

def check (d : Date) : Except Calendar.Error Unit := do
  if d.year = 0 then throw (.year d.year)
  if d.month = 0 || 12 < d.month then throw .month
  if d.day = 0 || daysInMonth d.year d.month < d.day then throw .day

end Date

namespace Time

def check (t : Time) : Except Calendar.Error Unit := do
  if 23 < t.hour then throw .hour
  if 59 < t.minute then throw .minute
  if 59 < t.second then throw .second

end Time

def Zone.check : Zone → Except Calendar.Error Unit
  | universal => return
  | offset minutes => if 1440 ≤ minutes.natAbs then throw (.zone minutes) else return

/-- The days from the beginning of the calendar to a date. -/
def Date.dayNumber (d : Date) : Nat :=
  let years := d.year - 1
  let months := (List.range (d.month - 1)).map fun m => daysInMonth d.year (m + 1)
  months.foldl (· + ·) (years * 365 + years / 4 - years / 100 + years / 400) + d.day

def Zone.minutes : Zone → Int
  | universal => 0
  | offset minutes => minutes

/-- The microseconds from the beginning of the calendar to a date and a time of day. -/
def Calendar.microseconds (d : Date) (t : Time) : Nat :=
  (((d.dayNumber * 24 + t.hour) * 60 + t.minute) * 60 + t.second) * 1000000 + t.microsecond

/-- Whether two dates with times are the same moment. One without a zone is no moment of one with a
zone. -/
def Calendar.sameMoment (d e : Date) (t u : Time) : Option Zone → Option Zone → Bool
  | none, none => d == e && t == u
  | some z, some y =>
    (microseconds d t : Int) - z.minutes * 60000000 == microseconds e u - y.minutes * 60000000
  | _, _ => false

/-- The lowest digits of a number, padded with zeros. -/
def padded (width n : Nat) : String :=
  let s := toString n
  String.ofList (List.replicate (width - s.length) '0') ++ s

namespace Date

def iso (d : Date) : String :=
  padded 4 d.year ++ "-" ++ padded 2 d.month ++ "-" ++ padded 2 d.day

end Date

namespace Time

/-- Microseconds are written, with six digits, unless there are none. -/
def iso (t : Time) : String :=
  padded 2 t.hour ++ ":" ++ padded 2 t.minute ++ ":" ++ padded 2 t.second ++
    (if t.microsecond = 0 then "" else "." ++ padded 6 t.microsecond)

end Time

namespace Zone

def iso : Zone → String
  | universal => "+00:00"
  | offset minutes =>
    (if minutes < 0 then "-" else "+") ++ padded 2 (minutes.natAbs / 60) ++ ":" ++
      padded 2 (minutes.natAbs % 60)

end Zone

end ImportGuard
