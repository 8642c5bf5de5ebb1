import ImportGuard.Decimal.Text
import ImportGuard.Text.Quoted
import ImportGuard.Regex.Node

namespace ImportGuard.Regex

open ImportGuard.Text

/-- What is wrong at a place of a pattern. -/
inductive Cause
  | badEscapeAtEnd
  | badEscape (text : String)
  | incompleteEscape (text : String)
  | octalOutOfRange (text : String)
  | missingBrace
  | missingName (what : String)
  | unterminatedName (terminator : String)
  | undefinedCharacter (name : String)
  | invalidGroupReference (index : Nat)
  | openGroup
  | groupInSameLookbehind
  | unterminatedSet
  | badRange (low high : String)
  | minAboveMax
  | nothingToRepeat
  | multipleRepeat
  | unexpectedEnd
  | unknownExtension (text : String)
  | badGroupName (name : String)
  | unknownGroupName (name : String)
  | redefinedGroup (name : String) (index earlier : Nat)
  | badGroupNumber
  | unterminatedComment
  | unterminatedGroup
  | moreThanTwoBranches
  | lateGlobalFlags
  | localeFlag
  | clashingTypeFlags
  | missingFlagEnd
  | unknownFlag
  | missingFlag
  | missingColon
  | globalFlagOn
  | globalFlagOff
  | flagOnAndOff
  | typeFlagOff
  | unbalancedParenthesis
  | variableLookbehind
  | farLookbehind
  | templateLoop (greed : Greed)
  deriving DecidableEq, Repr

namespace Cause

def message : Cause → String
  | badEscapeAtEnd => "bad escape (end of pattern)"
  | badEscape text => "bad escape " ++ text
  | incompleteEscape text => "incomplete escape " ++ text
  | octalOutOfRange text => "octal escape value " ++ text ++ " outside of range 0-0o377"
  | missingBrace => "missing \x7b"
  | missingName what => "missing " ++ what
  | unterminatedName terminator => "missing " ++ terminator ++ ", unterminated name"
  | undefinedCharacter name => "undefined character name " ++ quote name
  | invalidGroupReference index => "invalid group reference " ++ toString index
  | openGroup => "cannot refer to an open group"
  | groupInSameLookbehind => "cannot refer to group defined in the same lookbehind subpattern"
  | unterminatedSet => "unterminated character set"
  | badRange low high => "bad character range " ++ low ++ "-" ++ high
  | minAboveMax => "min repeat greater than max repeat"
  | nothingToRepeat => "nothing to repeat"
  | multipleRepeat => "multiple repeat"
  | unexpectedEnd => "unexpected end of pattern"
  | unknownExtension text => "unknown extension ?" ++ text
  | badGroupName name => "bad character in group name " ++ quote name
  | unknownGroupName name => "unknown group name " ++ quote name
  | redefinedGroup name index earlier =>
    "redefinition of group name " ++ quote name ++ " as group " ++ toString index ++
      "; was group " ++ toString earlier
  | badGroupNumber => "bad group number"
  | unterminatedComment => "missing ), unterminated comment"
  | unterminatedGroup => "missing ), unterminated subpattern"
  | moreThanTwoBranches => "conditional backref with more than two branches"
  | lateGlobalFlags => "global flags not at the start of the expression"
  | localeFlag => "bad inline flags: cannot use 'L' flag with a str pattern"
  | clashingTypeFlags => "bad inline flags: flags 'a', 'u' and 'L' are incompatible"
  | missingFlagEnd => "missing -, : or )"
  | unknownFlag => "unknown flag"
  | missingFlag => "missing flag"
  | missingColon => "missing :"
  | globalFlagOn => "bad inline flags: cannot turn on global flag"
  | globalFlagOff => "bad inline flags: cannot turn off global flag"
  | flagOnAndOff => "bad inline flags: flag turned on and off"
  | typeFlagOff => "bad inline flags: cannot turn off flags 'a', 'u' and 'L'"
  | unbalancedParenthesis => "unbalanced parenthesis"
  | variableLookbehind => "look-behind requires fixed-width pattern"
  | farLookbehind => "looks too much behind"
  | templateLoop .greedy => "internal: unsupported template operator MAX_REPEAT"
  | templateLoop .lazy => "internal: unsupported template operator MIN_REPEAT"
  | templateLoop .possessive => "internal: unsupported template operator POSSESSIVE_REPEAT"

end Cause

/-- A rejected pattern: either the text is wrong at a place, or a number in it or a combination of
switches is beyond what patterns can hold. -/
inductive Error
  | invalid (cause : Cause) (pos : Option Nat)
  | repeatTooLarge
  /-- A repeat count is written with more digits than are read. -/
  | countTooLong (digits : Nat)
  | codeTooLarge
  | clashingFlags
  deriving DecidableEq, Repr

/-- The line and column of a position, both counted from one. -/
def lineColumn (pattern : List Char) (pos : Nat) : Nat × Nat :=
  let before := pattern.take pos
  let line := before.count '\n' + 1
  (line, (before.reverse.takeWhile (· != '\n')).length + 1)

namespace Error

/-- What is wrong and where. Lines and columns are told if the pattern has more than one line. -/
def message (pattern : String) : Error → String
  | invalid cause none => cause.message
  | invalid cause (some pos) =>
    let place := cause.message ++ " at position " ++ toString pos
    if pattern.toList.contains '\n' then
      let (line, column) := lineColumn pattern.toList pos
      place ++ " (line " ++ toString line ++ ", column " ++ toString column ++ ")"
    else place
  | repeatTooLarge => "the repetition number is too large"
  | countTooLong digits => Decimal.excessMessage (some digits)
  | codeTooLarge => "Python int too large to convert to C int"
  | clashingFlags => "ASCII and UNICODE flags are incompatible"

end Error

end ImportGuard.Regex
