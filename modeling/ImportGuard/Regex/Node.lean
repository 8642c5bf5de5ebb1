import ImportGuard.Regex.CharClass

namespace ImportGuard.Regex

/-- The switches that a pattern can set for itself or for a part of itself. -/
inductive Flag
  | ascii
  | ignoreCase
  | locale
  | multiline
  | dotAll
  | template
  | unicode
  | verbose
  deriving DecidableEq, Repr

/-- The switches in force at a place of a pattern. -/
structure Context where
  ascii : Bool := false
  ignoreCase : Bool := false
  multiline : Bool := false
  dotAll : Bool := false
  verbose : Bool := false
  deriving DecidableEq, Repr

namespace Context

def turnOn (ctx : Context) : Flag → Context
  | .ascii => { ctx with ascii := true }
  | .ignoreCase => { ctx with ignoreCase := true }
  | .multiline => { ctx with multiline := true }
  | .dotAll => { ctx with dotAll := true }
  | .unicode => { ctx with ascii := false }
  | .verbose => { ctx with verbose := true }
  | .locale => ctx
  | .template => ctx

def turnOff (ctx : Context) : Flag → Context
  | .ignoreCase => { ctx with ignoreCase := false }
  | .multiline => { ctx with multiline := false }
  | .dotAll => { ctx with dotAll := false }
  | .verbose => { ctx with verbose := false }
  | .ascii => ctx
  | .unicode => ctx
  | .locale => ctx
  | .template => ctx

def adjust (ctx : Context) (on off : List Flag) : Context :=
  off.foldl turnOff (on.foldl turnOn ctx)

def caseRule (ctx : Context) : CaseRule :=
  if ctx.ignoreCase then (if ctx.ascii then .ascii else .unicode) else .exact

end Context

/-- A place in the text, told apart without taking a character. -/
inductive Anchor
  | lineStart
  | lineEnd
  | textStart
  | textEnd
  | boundary (negated : Bool)
  deriving DecidableEq, Repr

/-- The order in which a loop tries to go on or to stop. -/
inductive Greed
  | greedy
  | lazy
  | possessive
  deriving DecidableEq, Repr

/-- The least and the greatest number of characters that a pattern takes. -/
structure Width where
  least : Nat
  most : Nat
  deriving DecidableEq, Repr

namespace Width

/-- Widths at or above the limit are all taken for the limit. -/
def limit : Nat := 0x10000000000000000

def exactly (n : Nat) : Width := ⟨n, n⟩

def add (a b : Width) : Width :=
  ⟨min (a.least + b.least) limit, min (a.most + b.most) limit⟩

def either (a b : Width) : Width := ⟨min a.least b.least, max a.most b.most⟩

def times (w : Width) (low : Nat) (high : Option Nat) : Width where
  least := min (w.least * low) limit
  most := match high with
    | some n => min (w.most * n) limit
    | none => if w.most == 0 then 0 else limit

end Width

inductive Node
  | empty
  | one (test : CharClass)
  | anchor (place : Anchor)
  | seq (first second : Node)
  | alt (first second : Node)
  | group (index : Nat) (body : Node)
  | within (on off : List Flag) (body : Node)
  | loop (greed : Greed) (low : Nat) (high : Option Nat) (body : Node)
  | atomic (body : Node)
  | ahead (negated : Bool) (body : Node)
  | behind (negated : Bool) (width : Width) (body : Node)
  | again (index : Nat)
  | ifGroup (index : Nat) (yes : Node) (no : Node)
  deriving Repr

namespace Node

def ofList : List Node → Node
  | [] => .empty
  | [n] => n
  | n :: ns => .seq n (ofList ns)

/-- The branches in the order in which they are tried. -/
def ofBranches : List Node → Node
  | [] => .empty
  | [n] => n
  | n :: ns => .alt n (ofBranches ns)

/-- The width of a tree whose back references have the widths given by `groups`. -/
def width (groups : Nat → Width) : Node → Width
  | empty => .exactly 0
  | one _ => .exactly 1
  | anchor _ => .exactly 0
  | seq a b => (a.width groups).add (b.width groups)
  | alt a b => (a.width groups).either (b.width groups)
  | group _ n => n.width groups
  | within _ _ n => n.width groups
  | loop _ low high n => (n.width groups).times low high
  | atomic n => n.width groups
  | ahead _ _ => .exactly 0
  | behind _ _ _ => .exactly 0
  | again i => groups i
  | ifGroup _ yes no => (yes.width groups).either (no.width groups)

/-- Whether two trees are the same single test, place or back reference. -/
def sameAtom : Node → Node → Bool
  | one a, one b => a == b
  | anchor a, anchor b => a == b
  | again i, again j => i == j
  | _, _ => false

end Node

end ImportGuard.Regex
