import ImportGuard.Yaml.Text
import ImportGuard.Yaml.Token

namespace ImportGuard.Yaml

def isNameChar (c : Char) : Bool := c.isAlphanum || c = '-' || c = '_'

/-- A name of at least one character. -/
def name (c : Cursor) : Except Failure (String × Cursor) :=
  let (run, c) := c.takeWhile isNameChar
  if run.isEmpty then refuse else return (String.ofList run, c)

def endsAnchor : Option Char → Bool
  | none => true
  | some c => endsWord (some c) || "?:,]\x7d%@`".toList.contains c

/-- The name of an alias or an anchor from its mark on. -/
def anchorName (c : Cursor) : Except Failure (String × Cursor) := do
  let (text, c) ← name c.step
  if endsAnchor c.peek then return (text, c) else refuse

def isUriChar (c : Char) : Bool := c.isAlphanum || "-;/?:@&=+$,_.!~*'()[]".toList.contains c

/-- Bytes written as a percent sign and two digits each. -/
def escapedBytes : Nat → List UInt8 → Cursor → Except Failure (List UInt8 × Cursor)
  | 0, _, _ => refuse
  | fuel + 1, bytes, c =>
    if c.isAt '%' then
      match hexNumber? 2 0 c.step.rest with
      | some n => escapedBytes fuel (UInt8.ofNat n :: bytes) (c.forward 3)
      | none => refuse
    else return (bytes.reverse, c)

/-- The characters of a name, some of which may be escaped. -/
def uriChars : Nat → List Char → Cursor → Except Failure (List Char × Cursor)
  | 0, _, _ => refuse
  | fuel + 1, read, c =>
    if c.isAt '%' then do
      let (bytes, c) ← escapedBytes (c.rest.length + 1) [] c
      match String.fromUTF8? ⟨bytes.toArray⟩ with
      | some text => uriChars fuel (read ++ text.toList) c
      | none => refuse
    else
      let (run, c) := c.takeWhile isUriChar
      if run.isEmpty then (if read.isEmpty then refuse else return (read, c))
      else uriChars fuel (read ++ run) c

def uri (c : Cursor) : Except Failure (String × Cursor) := do
  let (text, c) ← uriChars (c.rest.length + 1) [] c
  return (String.ofList text, c)

/-- A handle: exclamation marks around a name that may be empty, or one mark before a space. -/
def handle (c : Cursor) : Except Failure (String × Cursor) :=
  if !c.isAt '!' then refuse
  else if c.step.isAt ' ' then return ("!", c.step)
  else
    let (run, c) := c.step.takeWhile isNameChar
    if c.isAt '!' then return ("!" ++ String.ofList run ++ "!", c.step) else refuse

/-- A kind from its mark on. -/
def tag (c : Cursor) : Except Failure (Token × Cursor) := do
  let (token, c) ←
    if c.peekAt 1 == some '<' then do
      let (suffix, c) ← uri (c.forward 2)
      if c.isAt '>' then pure (Token.tag none suffix, c.step) else refuse
    else if endsWord (c.peekAt 1) then pure (Token.tag none "!", c.step)
    else
      let word := c.step.rest.takeWhile fun ch => !endsItem (some ch)
      if word.contains '!' then do
        let (handle, c) ← handle c
        let (suffix, c) ← uri c
        pure (Token.tag (some handle) suffix, c)
      else do
        let (suffix, c) ← uri c.step
        pure (Token.tag (some "!") suffix, c)
  if endsItem c.peek then return (token, c) else refuse

/-- One of the two numbers of a version. -/
def versionNumber (c : Cursor) : Except Failure (Nat × Cursor) :=
  let (run, c) := c.takeWhile Char.isDigit
  if run.isEmpty then refuse
  else return (run.foldl (fun n d => n * 10 + (d.toNat - '0'.toNat)) 0, c)

private def versionValue (c : Cursor) : Except Failure (Directive × Cursor) := do
  let (major, c) ← versionNumber (c.skipWhile (· = ' '))
  if !c.isAt '.' then refuse
  let (minor, c) ← versionNumber c.step
  if endsItem c.peek then return (.version major minor, c) else refuse

private def tagValue (c : Cursor) : Except Failure (Directive × Cursor) := do
  let (handle, c) ← handle (c.skipWhile (· = ' '))
  if !c.isAt ' ' then refuse
  let (domain, c) ← uri (c.skipWhile (· = ' '))
  if endsItem c.peek then return (.tag handle domain, c) else refuse

/-- A directive with the line it stands on. -/
def directive (c : Cursor) : Except Failure (Directive × Cursor) := do
  let (word, c) ← name c.step
  if !endsItem c.peek then refuse
  let (d, c) ←
    if word == "YAML" then versionValue c
    else if word == "TAG" then tagValue c
    else pure (.other word, c.skipWhile fun ch => !isBreak ch)
  match c.skipRestOfLine with
  | some c => return (d, c)
  | none => refuse

end ImportGuard.Yaml
