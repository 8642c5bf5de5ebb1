import ImportGuard.Text.Identifier
import ImportGuard.Regex.Escape

namespace ImportGuard.Regex

open ImportGuard.Text

/-- What a parenthesis opens. -/
inductive Opening
  | capture (name : Option String)
  | plain (on off : List Flag)
  | atomic
  | ahead (negated : Bool)
  | behind (negated : Bool)
  | condition (index : Nat)
  | reference (index : Nat)
  | comment
  | globalFlags
  deriving DecidableEq, Repr

def Flag.ofChar? : Char → Option Flag
  | 'i' => some .ignoreCase
  | 'L' => some .locale
  | 'm' => some .multiline
  | 's' => some .dotAll
  | 'x' => some .verbose
  | 'a' => some .ascii
  | 't' => some .template
  | 'u' => some .unicode
  | _ => none

/-- The switches that choose the alphabet; at most one of them can be on. -/
def Flag.isType : Flag → Bool
  | .ascii | .locale | .unicode => true
  | _ => false

/-- One past the greatest repeat count. -/
def repeatLimit : Nat := 4294967295

/-- One past the greatest group number. -/
def groupLimit : Nat := 1073741823

/-- Digits of any script, with single low lines between them. -/
def groupedDigits? : List Char → Option Nat
  | [] => none
  | c :: cs => do
    let d ← digitValue? c.toNat
    go d cs
where
  go (n : Nat) : List Char → Option Nat
    | [] => some n
    | '_' :: c :: cs => do
      let d ← digitValue? c.toNat
      go (n * 10 + d) cs
    | c :: cs => do
      let d ← digitValue? c.toNat
      go (n * 10 + d) cs

/-- The number of a group: blanks around it and a sign before it are allowed, and minus zero is
zero. Too many digits are no number. -/
def groupNumber? (name : String) : Option Nat :=
  let unsigned := fun (cs : List Char) =>
    if Decimal.maxDigits < (cs.filter (· != '_')).length then none else groupedDigits? cs
  match trimBlank name.toList with
  | '+' :: cs => unsigned cs
  | '-' :: cs => (unsigned cs).filter (· == 0)
  | cs => unsigned cs

namespace Parse

def setMember : Token → Parse Member
  | .escape c => setEscape c
  | .char c => return .single c.toNat
  | .lone => refuse .badEscapeAtEnd 1

/-- The entries of a set, last one first, up to the closing bracket. A bracket that comes first is
an entry. -/
def setMembers (start : Nat) : Nat → List Member → Parse (List Member)
  | 0, acc => return acc
  | n + 1, acc => do
    match ← next with
    | none => throw (.invalid .unterminatedSet (some start))
    | some t =>
      if t = .char ']' && !acc.isEmpty then return acc
      let low ← setMember t
      if ← accept '-' then
        match ← next with
        | none => throw (.invalid .unterminatedSet (some start))
        | some u =>
          if u = .char ']' then return .single 45 :: low :: acc
          let high ← setMember u
          match low, high with
          | .single a, .single b =>
            if b < a then refuse (.badRange t.text u.text) (t.length + 1 + u.length)
            setMembers start n (.range a b :: acc)
          | _, _ => refuse (.badRange t.text u.text) (t.length + 1 + u.length)
      else setMembers start n (low :: acc)

/-- The set whose opening bracket has just been taken. -/
def bracketed : Parse CharClass := do
  let start := (← get).pos - 1
  let negated ← accept '^'
  let members ← setMembers start ((← get).rest.length + 1) []
  return .set negated members.reverse.eraseDups

def bound (digits : List Char) : Parse (Option Nat) := do
  if digits.isEmpty then return none
  if Decimal.maxDigits < digits.length then throw (.countTooLong digits.length)
  let n := number 10 digits
  if repeatLimit ≤ n then throw .repeatTooLarge
  return some n

/-- The counts in braces, or nothing if the brace is just a brace. -/
def bracedCounts? : Parse (Option (Nat × Option Nat)) := do
  let start ← get
  if start.rest.head? = some (.char '\x7d') then return none
  let low ← takeAll Char.isDigit
  let high ← if ← accept ',' then takeAll Char.isDigit else pure low
  unless ← accept '\x7d' do
    set start
    return none
  let least := (← bound low).getD 0
  let most ← bound high
  if most.any (· < least) then throw (.invalid .minAboveMax (some start.pos))
  return some (least, most)

/-- The counts of the quantifier that `c` begins. -/
def counts? (c : Char) : Parse (Option (Nat × Option Nat)) := do
  match c with
  | '?' => return some (0, some 1)
  | '*' => return some (0, none)
  | '+' => return some (1, none)
  | _ => bracedCounts?

def greed : Parse Greed := do
  if ← accept '?' then return .lazy
  if ← accept '+' then return .possessive
  return .greedy

def flagOf? : Token → Option Flag
  | .char c => Flag.ofChar? c
  | _ => none

def isAlpha : Token → Bool
  | .char c => isLetter c.toNat
  | _ => false

/-- Switches to turn on, up to the closing parenthesis, hyphen or colon. -/
def flagsOn : Nat → Flag → List Flag → Parse (List Flag × Token)
  | 0, _, on => return (on, .char ':')
  | n + 1, flag, acc => do
    if flag = .locale then refuse .localeFlag 0
    let on := if acc.contains flag then acc else acc ++ [flag]
    if flag.isType && on.any (fun f => f.isType && f != flag) then refuse .clashingTypeFlags 0
    match ← next with
    | none => refuse .missingFlagEnd 0
    | some t =>
      if t = .char ')' || t = .char '-' || t = .char ':' then return (on, t)
      match flagOf? t with
      | some f => flagsOn n f on
      | none => refuse (if isAlpha t then .unknownFlag else .missingFlagEnd) t.length

/-- Switches to turn off, up to the colon. -/
def flagsOff : Nat → Flag → List Flag → Parse (List Flag)
  | 0, _, off => return off
  | n + 1, flag, acc => do
    if flag.isType then refuse .typeFlagOff 0
    let off := acc ++ [flag]
    match ← next with
    | none => refuse .missingColon 0
    | some t =>
      if t = .char ':' then return off
      match flagOf? t with
      | some f => flagsOff n f off
      | none => refuse (if isAlpha t then .unknownFlag else .missingColon) t.length

/-- The switches that `t` begins, for the whole pattern or for one group. -/
def switches (t : Token) : Parse Opening := do
  let fuel := (← get).rest.length + 1
  let (on, stop) ← match flagOf? t with
    | some flag => flagsOn fuel flag []
    | none => pure ([], .char '-')
  if stop = .char ')' then
    modify fun r => { r with flags := r.flags ++ on }
    return .globalFlags
  if on.contains .template then refuse .globalFlagOn 1
  let off ← if stop = .char '-' then do
      match ← next with
      | none => refuse .missingFlag 0
      | some u =>
        match flagOf? u with
        | some flag => flagsOff fuel flag []
        | none => refuse (if isAlpha u then .unknownFlag else .missingFlag) u.length
    else pure []
  if off.contains .template then refuse .globalFlagOff 1
  if on.any off.contains then refuse .flagOnAndOff 1
  return .plain on off

def checkName (name : String) : Parse Unit := do
  unless isIdentifier name.toList do refuse (.badGroupName name) (name.length + 1)

def namedReference : Parse Opening := do
  let name ← takeName ')' "group name"
  checkName name
  match (← get).names.lookup name with
  | none => refuse (.unknownGroupName name) (name.length + 1)
  | some index =>
    unless ← isClosed index do refuse .openGroup (name.length + 1)
    checkLookbehind index
    return .reference index

def condition : Parse Opening := do
  let name ← takeName ')' "group name"
  let back := name.length + 1
  if isIdentifier name.toList then
    match (← get).names.lookup name with
    | none => refuse (.unknownGroupName name) back
    | some index =>
      checkLookbehind index
      return .condition index
  else
    match groupNumber? name with
    | none => refuse (.badGroupName name) back
    | some 0 => refuse .badGroupNumber back
    | some index =>
      if groupLimit ≤ index then refuse (.invalidGroupReference index) back
      modify fun r =>
        if (r.conditions.lookup index).isSome then r
        else { r with conditions := r.conditions ++ [(index, r.pos - back)] }
      checkLookbehind index
      return .condition index

def skipComment (start : Nat) : Nat → Parse Opening
  | 0 => return .comment
  | n + 1 => do
    match ← peek with
    | none => throw (.invalid .unterminatedComment (some start))
    | some _ =>
      if (← next) = some (.char ')') then return .comment
      skipComment start n

def lookbehind : Parse Opening := do
  match ← next with
  | none => refuse .unexpectedEnd 0
  | some (.char '=') => return .behind false
  | some (.char '!') => return .behind true
  | some t => refuse (.unknownExtension ("<" ++ t.text)) (t.length + 2)

def named : Parse Opening := do
  if ← accept '<' then
    let name ← takeName '>' "group name"
    checkName name
    return .capture (some name)
  if ← accept '=' then return ← namedReference
  match ← next with
  | none => refuse .unexpectedEnd 0
  | some t => refuse (.unknownExtension ("P" ++ t.text)) (t.length + 2)

/-- What the parenthesis at `start` opens, with everything up to the body of the group. -/
def opening (start : Nat) : Parse Opening := do
  unless ← accept '?' do return .capture none
  match ← next with
  | none => refuse .unexpectedEnd 0
  | some (.char 'P') => named
  | some (.char ':') => return .plain [] []
  | some (.char '#') => skipComment start ((← get).rest.length + 1)
  | some (.char '=') => return .ahead false
  | some (.char '!') => return .ahead true
  | some (.char '<') => lookbehind
  | some (.char '(') => condition
  | some (.char '>') => return .atomic
  | some t =>
    if (flagOf? t).isSome || t = .char '-' then switches t
    else refuse (.unknownExtension t.text) (t.length + 1)

/-- Numbers a new group. -/
def openGroup (name : Option String) : Parse Nat := do
  let index := (← groupCount) + 1
  if let some n := name then
    if let some earlier := (← get).names.lookup n then
      refuse (.redefinedGroup n index earlier) (n.length + 1)
    modify fun r => { r with names := r.names ++ [(n, index)] }
  modify fun r => { r with groups := r.groups ++ [none] }
  return index

/-- The width of a tree at this point of the pattern. -/
def widthOf (n : Node) : Parse Width := do
  let groups := (← get).groups
  return n.width fun i => (groups[i - 1]?.bind id).getD (.exactly 0)

def closeGroup (index : Nat) (body : Node) : Parse Unit := do
  let w ← widthOf body
  modify fun r => { r with groups := r.groups.set (index - 1) (some w) }

end Parse

end ImportGuard.Regex
