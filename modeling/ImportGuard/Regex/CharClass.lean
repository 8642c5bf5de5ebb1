import ImportGuard.Text.Letter
import ImportGuard.Text.Blank
import ImportGuard.Text.Case

namespace ImportGuard.Regex

open ImportGuard.Text

/-- How letters of different case are compared. -/
inductive CaseRule
  | exact
  | ascii
  | unicode
  deriving DecidableEq, Repr

namespace CaseRule

/-- The representative under which two code points are compared. -/
def fold : CaseRule → Nat → Nat
  | .exact, c => c
  | .ascii, c => lowerAscii c
  | .unicode, c => lower c

/-- Whether two code points are the same letter up to case. -/
def same (rule : CaseRule) (c d : Nat) : Bool :=
  rule.fold c == rule.fold d ||
    (rule == .unicode && (siblings (lower c)).contains (lower d))

/-- The code points that are the same letter as the folded code point `c`. -/
def variants : CaseRule → Nat → List Nat
  | .exact, c => [c]
  | .ascii, c => if 97 ≤ c && c ≤ 122 then [c, c - 32] else [c]
  | .unicode, c => (c :: siblings c).flatMap withLower

end CaseRule

inductive Category
  | digit
  | space
  | word
  deriving DecidableEq, Repr

def Category.holds (ascii : Bool) : Category → Nat → Bool
  | .digit, c => isDigit c && (!ascii || c < 128)
  | .space, c => if ascii then c == 32 || (9 ≤ c && c ≤ 13) else isBlank c
  | .word, c => isWord c && (!ascii || c < 128)

/-- One entry of a bracketed set. -/
inductive Member
  | single (code : Nat)
  | range (low high : Nat)
  | category (kind : Category) (negated : Bool)
  deriving DecidableEq, Repr

/-- The last code point of the basic plane, beyond which sets compare case in a simpler way. -/
def lastBasic : Nat := 0xFFFF

namespace Member

/-- Whether a folded code point is in the entry. Beyond the basic plane a single code point is
compared as it is written, and a range is tried with the folded code point and its upper case. -/
def holds (rule : CaseRule) (ascii : Bool) (c : Nat) : Member → Bool
  | single d =>
    if rule.fold d ≤ lastBasic then rule.same d c else c == d
  | range low high =>
    if rule == .exact then low ≤ c && c ≤ high
    else
      (rule.variants c).any (fun d => low ≤ d && d ≤ high && d ≤ lastBasic) ||
        (lastBasic < high &&
          ((low ≤ c && c ≤ high) || (low ≤ upper c && upper c ≤ high)))
  | category kind negated => kind.holds ascii c != negated

end Member

/-- A test that consumes one character. -/
inductive CharClass
  | any
  | set (negated : Bool) (members : List Member)
  deriving DecidableEq, Repr

namespace CharClass

def literal (code : Nat) : CharClass := .set false [.single code]

/-- Whether a code point passes the test; `newline` says if the dot takes a line feed. -/
def test (rule : CaseRule) (ascii newline : Bool) : CharClass → Nat → Bool
  | any, c => newline || c != 10
  | set negated [.single d], c => rule.same d c != negated
  | set negated members, c => members.any (·.holds rule ascii (rule.fold c)) != negated

end CharClass

end ImportGuard.Regex
