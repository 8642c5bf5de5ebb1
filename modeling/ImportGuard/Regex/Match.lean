import ImportGuard.Regex.Node

namespace ImportGuard.Regex

/-- Where a group was last entered and left. -/
structure Span where
  start : Option Nat := none
  stop : Option Nat := none
  deriving DecidableEq, Repr

/-- The bounds of the text a group holds: none while it has not been left since it was entered
further on. -/
def Span.bounds? : Span → Option (Nat × Nat)
  | ⟨some i, some j⟩ => if i ≤ j then some (i, j) else none
  | _ => none

/-- A position in the text and what the groups hold there. -/
structure Cursor where
  pos : Nat
  spans : List Span
  deriving DecidableEq, Repr

namespace Cursor

def openGroup (c : Cursor) (index : Nat) : Cursor :=
  { c with spans := c.spans.modify (index - 1) fun s => { s with start := some c.pos } }

def closeGroup (c : Cursor) (index : Nat) : Cursor :=
  { c with spans := c.spans.modify (index - 1) fun s => { s with stop := some c.pos } }

def bounds? (c : Cursor) (index : Nat) : Option (Nat × Nat) :=
  c.spans[index - 1]?.bind (·.bounds?)

end Cursor

abbrev Subject := Array Nat

/-- What has to follow: a way to the end of the match, or none. -/
abbrev Rest := Cursor → Option Cursor

namespace Subject

def wordAt (text : Subject) (ascii : Bool) (i : Nat) : Bool :=
  match text[i]? with
  | some c => Category.word.holds ascii c
  | none => false

/-- Whether exactly one side of the position is part of a word. The empty text has no boundary
and no place without one. -/
def boundary (text : Subject) (ascii negated : Bool) (i : Nat) : Bool :=
  if text.isEmpty then false
  else
    let left := 0 < i && text.wordAt ascii (i - 1)
    (left != text.wordAt ascii i) != negated

def atAnchor (text : Subject) (ctx : Context) (i : Nat) : Anchor → Bool
  | .textStart => i == 0
  | .textEnd => i == text.size
  | .lineStart => i == 0 || (ctx.multiline && text[i - 1]? == some 10)
  | .lineEnd =>
    i == text.size ||
      (text[i]? == some 10 && (ctx.multiline || i + 1 == text.size))
  | .boundary negated => text.boundary ctx.ascii negated i

/-- Whether the `n` characters at `i` and at `j` are the same up to case. -/
def sameRun (text : Subject) (rule : CaseRule) (i j : Nat) : Nat → Bool
  | 0 => true
  | n + 1 =>
    match text[i]?, text[j]? with
    | some c, some d => rule.fold c == rule.fold d && sameRun text rule (i + 1) (j + 1) n
    | _, _ => false

end Subject

/-- Whether a loop that has gone round `count` times may go round again. -/
def below (count : Nat) : Option Nat → Bool
  | some high => count < high
  | none => true

/-- Goes round as often as it can and gives back one round at a time. After the required rounds,
a round that took nothing is the last. -/
def greedyLoop (body : Cursor → Rest → Option Cursor) (low : Nat) (high : Option Nat) :
    Nat → Nat → Option Nat → Cursor → Rest → Option Cursor
  | 0, _, _, _, _ => none
  | fuel + 1, count, last, c, k =>
    if count < low then
      body c fun d => greedyLoop body low high fuel (count + 1) last d k
    else if below count high && last != some c.pos then
      match body c fun d => greedyLoop body low high fuel (count + 1) (some c.pos) d k with
      | some r => some r
      | none => k c
    else k c

/-- Stops as soon as it can and goes round once more when the rest fails. -/
def lazyLoop (body : Cursor → Rest → Option Cursor) (low : Nat) (high : Option Nat) :
    Nat → Nat → Option Nat → Cursor → Rest → Option Cursor
  | 0, _, _, _, _ => none
  | fuel + 1, count, last, c, k =>
    if count < low then
      body c fun d => lazyLoop body low high fuel (count + 1) last d k
    else
      match k c with
      | some r => some r
      | none =>
        if below count high && last != some c.pos then
          body c fun d => lazyLoop body low high fuel (count + 1) (some c.pos) d k
        else none

/-- Goes round as often as it can and gives nothing back. -/
def possessiveLoop (body : Cursor → Option Cursor) (low : Nat) (high : Option Nat) :
    Nat → Nat → Option Nat → Cursor → Option Cursor
  | 0, _, _, _ => none
  | fuel + 1, count, last, c =>
    if count < low then
      match body c with
      | some d => possessiveLoop body low high fuel (count + 1) last d
      | none => none
    else if below count high && last != some c.pos then
      match body c with
      | some d => possessiveLoop body low high fuel (count + 1) (some c.pos) d
      | none => some c
    else some c

/-- Enough rounds for a loop from `c`: the required ones, one for each character left, and one
that takes nothing. -/
def rounds (text : Subject) (low : Nat) (c : Cursor) : Nat :=
  low + (text.size - c.pos) + 2

namespace Node

/-- Runs a tree from a cursor. The body of a look-around or of an atomic or possessive part is run
on its own, and its first way through is kept. -/
def run (text : Subject) : Context → Node → Cursor → Rest → Option Cursor
  | _, empty, c, k => k c
  | ctx, one test, c, k =>
    match text[c.pos]? with
    | some ch =>
      if test.test ctx.caseRule ctx.ascii ctx.dotAll ch then k { c with pos := c.pos + 1 }
      else none
    | none => none
  | ctx, anchor place, c, k => if text.atAnchor ctx c.pos place then k c else none
  | ctx, seq a b, c, k => run text ctx a c fun d => run text ctx b d k
  | ctx, alt a b, c, k =>
    match run text ctx a c k with
    | some r => some r
    | none => run text ctx b c k
  | ctx, group index body, c, k =>
    run text ctx body (c.openGroup index) fun d => k (d.closeGroup index)
  | ctx, within on off body, c, k => run text (ctx.adjust on off) body c k
  | ctx, loop .greedy low high body, c, k =>
    greedyLoop (fun d r => run text ctx body d r) low high (rounds text low c) 0 none c k
  | ctx, loop .lazy low high body, c, k =>
    lazyLoop (fun d r => run text ctx body d r) low high (rounds text low c) 0 none c k
  | ctx, loop .possessive low high body, c, k =>
    match possessiveLoop (fun d => run text ctx body d some) low high (rounds text low c) 0
        none c with
    | some d => k d
    | none => none
  | ctx, atomic body, c, k =>
    match run text ctx body c some with
    | some d => k d
    | none => none
  | ctx, ahead negated body, c, k =>
    match run text ctx body c some, negated with
    | some d, false => k { d with pos := c.pos }
    | none, true => k c
    | _, _ => none
  | ctx, behind negated width body, c, k =>
    if c.pos < width.least then (if negated then k c else none)
    else
      match run text ctx body { c with pos := c.pos - width.least } some, negated with
      | some d, false => k { d with pos := c.pos }
      | none, true => k c
      | _, _ => none
  | ctx, again index, c, k =>
    match c.bounds? index with
    | some (i, j) =>
      if text.sameRun ctx.caseRule i c.pos (j - i) then k { c with pos := c.pos + (j - i) }
      else none
    | none => none
  | ctx, ifGroup index yes no, c, k =>
    if (c.bounds? index).isSome then run text ctx yes c k else run text ctx no c k

end Node

end ImportGuard.Regex
