import QueryGraph.Json.Fault
import QueryGraph.Text.Quoted

/-!
# `Json.Message` — the wording of failures

One text per cause, and the place behind it.
-/

namespace QueryGraph.Json

/-- How a message names a scalar that it does not want. Arrays and objects are never refused. -/
def Value.describe : Value → String
  | .null => "null"
  | .bool true => "boolean `true`"
  | .bool false => "boolean `false`"
  | .number (.integer n) => "integer `" ++ String.ofList (Number.integer n).write ++ "`"
  | .number (.double x) => "floating point `" ++ String.ofList (Number.double x).write ++ "`"
  | .string text => "string " ++ String.ofList (Text.quoted text)
  | .array _ => "sequence"
  | .object _ => "map"

/-- The text of a cause. -/
def Cause.message : Cause → String
  | endInValue => "EOF while parsing a value"
  | endInArray => "EOF while parsing a list"
  | endInObject => "EOF while parsing an object"
  | endInString => "EOF while parsing a string"
  | valueExpected => "expected value"
  | wordExpected => "expected ident"
  | arraySeparatorExpected => "expected `,` or `]`"
  | objectSeparatorExpected => "expected `,` or `\x7d`"
  | colonExpected => "expected `:`"
  | trailingComma => "trailing comma"
  | nameExpected => "key must be a string"
  | trailingText => "trailing characters"
  | malformedNumber => "invalid number"
  | numberTooLarge => "number out of range"
  | controlCharacter => "control character (\\u0000-\\u001F) found while parsing a string"
  | malformedEscape => "invalid escape"
  | unpairedSurrogate => "lone leading surrogate in hex escape"
  | surrogateCutShort => "unexpected end of hex escape"
  | tooDeep => "recursion limit exceeded"
  | wrongShape found expected => "invalid type: " ++ found.describe ++ ", expected " ++ expected
  | repeatedMember name => "duplicate field `" ++ name ++ "`"

/-- The text of a failure: its cause, then its line and column. -/
def Failure.message (f : Failure) : String :=
  f.cause.message ++ " at line " ++ toString f.place.line ++ " column " ++ toString f.place.column

end QueryGraph.Json
