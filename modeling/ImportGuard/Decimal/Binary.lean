namespace ImportGuard.Decimal

/-- A double: `mantissa * 2 ^ exponent` with `mantissa < 2 ^ 53`, an infinity, or no number. -/
inductive Binary
  | finite (negative : Bool) (mantissa : Nat) (exponent : Int)
  | infinite (negative : Bool)
  | nan
  deriving DecidableEq, Repr

/-- A power of two. -/
def twoTo (n : Nat) : Nat := Nat.pow 2 n

/-- A power of ten. -/
def tenTo (n : Nat) : Nat := Nat.pow 10 n

/-- The number of decimal digits; zero has none. -/
def digitCount (n : Nat) : Nat := if n = 0 then 0 else (Nat.toDigits 10 n).length

/-- The integer quotient nearest to `num / den`, a half going to the even neighbour. -/
def roundDiv (num den : Nat) : Nat :=
  let q := num / den
  let twice := 2 * (num % den)
  if den < twice || (twice = den && q % 2 = 1) then q + 1 else q

namespace Binary

def zero (negative : Bool) : Binary := .finite negative 0 (-1074)

def leastExponent : Int := -1074

def greatestExponent : Int := 971

/-- The quotient rounded to a multiple of `2 ^ e`, in units of it. -/
def roundAt (num den : Nat) (e : Int) : Nat :=
  if 0 ≤ e then roundDiv num (den * twoTo e.toNat) else roundDiv (num * twoTo (-e).toNat) den

/-- The double nearest to `num / den`. -/
def ofRatio (negative : Bool) (num den : Nat) : Binary :=
  if num = 0 then zero negative
  else
    let guess : Int := (num.log2 : Int) - (den.log2 : Int) - 53
    -- the unit for which the quotient has 53 bits: the guess or one of the next two
    let fits (e : Int) : Bool := roundAt num den e ≤ twoTo 53
    let e := max leastExponent
      (if fits guess then guess else if fits (guess + 1) then guess + 1 else guess + 2)
    let m := roundAt num den e
    let (m, e) := if m = twoTo 53 then (twoTo 52, e + 1) else (m, e)
    if greatestExponent < e then .infinite negative else .finite negative m e

/-- The double nearest to `digits * 10 ^ scale`. -/
def ofDecimal (negative : Bool) (digits : Nat) (scale : Int) : Binary :=
  let magnitude := scale + digitCount digits
  if digits = 0 || magnitude < -330 then zero negative
  else if 310 < magnitude then .infinite negative
  else if 0 ≤ scale then ofRatio negative (digits * tenTo scale.toNat) 1
  else ofRatio negative digits (tenTo (-scale).toNat)

def neg : Binary → Binary
  | finite n m e => .finite (!n) m e
  | infinite n => .infinite (!n)
  | nan => .nan

/-- The double nearest to `n * 2 ^ e`; zero has the given sign. -/
def ofScaled (negativeZero : Bool) (n e : Int) : Binary :=
  if n = 0 then zero negativeZero
  else if 0 ≤ e then ofRatio (n < 0) (n.natAbs * twoTo e.toNat) 1
  else ofRatio (n < 0) n.natAbs (twoTo (-e).toNat)

def ofNat (n : Nat) : Binary := ofScaled false n 0

private def signed (negative : Bool) (m : Nat) : Int := if negative then -(m : Int) else m

/-- The sum, rounded to a double. -/
def add : Binary → Binary → Binary
  | nan, _ | _, nan => nan
  | infinite a, infinite b => if a = b then infinite a else nan
  | infinite a, _ | _, infinite a => infinite a
  | finite a m e, finite b n f =>
    let low := min e f
    let sum := signed a m * twoTo (e - low).toNat + signed b n * twoTo (f - low).toNat
    ofScaled (a && b) sum low

/-- The product, rounded to a double. -/
def mul : Binary → Binary → Binary
  | nan, _ | _, nan => nan
  | infinite a, infinite b => infinite (a != b)
  | infinite a, finite b m _ | finite b m _, infinite a => if m = 0 then nan else infinite (a != b)
  | finite a m e, finite b n f => ofScaled (a != b) (signed (a != b) (m * n)) (e + f)

def isZero : Binary → Bool
  | finite _ m _ => m == 0
  | _ => false

end Binary

/-- A decimal: its digits without zeros at the ends, and the power of ten of the first one. -/
structure Digits where
  digits : List Char
  power : Int
  deriving DecidableEq, Repr

namespace Digits

def ofNat (n : Nat) (power : Int) : Digits where
  digits := ((Nat.toDigits 10 n).reverse.dropWhile (· == '0')).reverse
  power := power

/-- The nearest neighbour of the value on the grid of `count` digits, if it lies between the bounds.
All three are in quarters of the unit `2 ^ e` of the value. -/
def onGrid? (low value high : Nat) (closed : Bool) (e power : Int) (count : Nat) : Option Digits :=
  let shift := power - count + 1
  let up (n : Int) : Nat := if 0 ≤ n then n.toNat else 0
  -- every number below is scaled by the same factor, so that all are integers
  let scale := twoTo (up e) * tenTo (up (-shift))
  let unit := 4 * tenTo (up shift) * twoTo (up (-e))
  let below := value * scale / unit
  let inside (n : Nat) : Bool :=
    let x := n * unit
    if closed then low * scale ≤ x && x ≤ high * scale
    else low * scale < x && x < high * scale
  let distance (n : Nat) : Nat := max (n * unit) (value * scale) - min (n * unit) (value * scale)
  let pick (n : Nat) : Option Digits :=
    some (ofNat n (if n = tenTo count then power + 1 else power))
  match inside below, inside (below + 1) with
  | true, true =>
    let d := distance below
    let d' := distance (below + 1)
    if d < d' || (d = d' && below % 2 = 0) then pick below else pick (below + 1)
  | true, false => pick below
  | false, true => pick (below + 1)
  | false, false => none

/-- The fewest digits that round back to `mantissa * 2 ^ e`, and of those the nearest. -/
def shortest (mantissa : Nat) (e : Int) : Digits :=
  let value := 4 * mantissa
  let low := if mantissa = twoTo 52 && Binary.leastExponent < e then value - 1 else value - 2
  let high := value + 2
  let tens :=
    if 0 ≤ e then mantissa * twoTo e.toNat * tenTo 350
    else mantissa * tenTo 350 / twoTo (-e).toNat
  let power : Int := (digitCount tens : Int) - 351
  let closed := mantissa % 2 = 0
  ((List.range' 1 17).findSome? (onGrid? low value high closed e power)).getD ⟨['0'], 0⟩

end Digits

end ImportGuard.Decimal
