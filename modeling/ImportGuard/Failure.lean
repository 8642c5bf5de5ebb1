import ImportGuard.Regex.Error
import ImportGuard.Calendar
import ImportGuard.Decimal.Text

namespace ImportGuard

/-- What is wrong with a configuration table. -/
inductive ConfigError
  | rulesNotList
  | ruleNotTable (index : Nat)
  | notText (place key kind : String)
  deriving DecidableEq, Repr

def ConfigError.message : ConfigError → String
  | rulesNotList => "[tool.forbid-imports] 'rules' must be an array of tables"
  | ruleNotTable index => "[tool.forbid-imports] rules[" ++ toString index ++ "] must be a table"
  | notText place key kind =>
    "[tool.forbid-imports] " ++ place ++ ": '" ++ key ++ "' must be a string, got " ++ kind

/-- A text that its kind of value does not have. -/
inductive ScalarError
  | integer (base : Nat) (text : String)
  /-- An integer has too many digits to be read. -/
  | digits (count : Nat)
  | float (text : String)
  | truth (text : String)
  | codePoint
  deriving DecidableEq, Repr

def ScalarError.message : ScalarError → String
  | integer base text =>
    "invalid literal for int() with base " ++ toString base ++ ": " ++ Text.quote text
  | digits count => Decimal.excessMessage (some count)
  | float text => "could not convert string to float: " ++ Text.quote text
  | truth text => Text.quote text
  | codePoint => "chr() arg not in range(0x110000)"

inductive Failure
  /-- The text of an option is not a pattern. -/
  | badPattern (option text : String) (cause : Regex.Cause) (pos : Option Nat)
  /-- A pattern has a number or a combination of switches that patterns cannot hold. -/
  | patternLimit (error : Regex.Error)
  | config (error : ConfigError)
  /-- A rule was given something that it does not look at, shown as its kind and its text. -/
  | wrongNode (kind shown : String)
  /-- A missing name met a pattern. -/
  | missingName
  /-- A value of the given kind was asked for something it does not have. -/
  | noAttribute (kind wanted : String)
  /-- Bytes were asked whether a text stands at their beginning. -/
  | textInBytes
  /-- An integer has too many digits to be written. -/
  | excessDigits
  | badCalendar (error : Calendar.Error)
  | badScalar (error : ScalarError)
  /-- A directory stands where a file is wanted. -/
  | isDirectory (path : String)
  /-- An option is a single quotation mark. -/
  | loneQuote
  | badToml
  | badYaml
  | badEncoding
  deriving DecidableEq, Repr

namespace Failure

/-- The reason why a text is not a pattern. -/
def reason (text : String) (cause : Regex.Cause) (pos : Option Nat) : String :=
  (Regex.Error.invalid cause pos).message text

def message : Failure → String
  | badPattern option text cause pos =>
    "Invalid regular expression for '" ++ option ++ "': " ++ Text.quote text ++ " (" ++
      reason text cause pos ++ ")"
  | patternLimit error => error.message ""
  | config error => error.message
  | wrongNode kind shown =>
    "ForbidCertainImportsRule got the wrong input node: " ++ kind ++ " (" ++ shown ++ ")"
  | missingName => "expected string or bytes-like object, got 'NoneType'"
  | noAttribute kind wanted =>
    "'" ++ kind ++ "' object has no attribute '" ++ wanted ++ "'"
  | textInBytes => "startswith first arg must be bytes or a tuple of bytes, not str"
  | excessDigits => Decimal.excessMessage none
  | badCalendar error => error.message
  | badScalar error => error.message
  | loneQuote => "string index out of range"
  | isDirectory path => "[Errno 21] Is a directory: " ++ Text.quote path
  | badToml => "malformed configuration file"
  | badYaml => "malformed registry file"
  | badEncoding => "file is not in UTF-8"

end Failure

end ImportGuard
