import HostDaemon.Text.Utf8

/-! # Faults of a JSON text

Why a text is no JSON value and where that is seen. The place is kept as what is left of the text;
its column is counted in bytes when the fault is put into words. -/

namespace HostDaemon.Json

/-- What is wrong with a text. -/
inductive FaultKind where
  /-- The text ends where a value is needed. -/
  | endInValue
  /-- The text ends inside an array. -/
  | endInArray
  /-- The text ends inside an object. -/
  | endInObject
  /-- The text ends inside a string. -/
  | endInString
  /-- No value begins here. -/
  | noValue
  /-- A word that begins like `true`, `false` or `null` goes on otherwise. -/
  | badWord
  /-- A number breaks off or has a zero in front. -/
  | badNumber
  /-- A number is larger than every double. -/
  | numberTooLarge
  /-- No comma and no closing bracket follows an item. -/
  | noCommaInArray
  /-- No comma and no closing brace follows a member. -/
  | noCommaInObject
  /-- A comma stands before a closing bracket or brace. -/
  | trailingComma
  /-- The name of a member is not a string. -/
  | nameNotText
  /-- No colon follows the name of a member. -/
  | noColon
  /-- A backslash in a string is followed by something else than an escape. -/
  | badEscape
  /-- A control character stands in a string. -/
  | controlInString
  /-- The first half of a pair of escapes stands where none may, or the second half is missing. -/
  | loneSurrogate
  /-- The first half of a pair of escapes is not followed by another escape. -/
  | unfinishedPair
  /-- Arrays and objects lie too deep in each other. -/
  | tooDeep
  /-- Something follows the value. -/
  | trailingText
deriving Repr, DecidableEq

/-- The wording of the fault. -/
def FaultKind.message : FaultKind → String
  | .endInValue => "EOF while parsing a value"
  | .endInArray => "EOF while parsing a list"
  | .endInObject => "EOF while parsing an object"
  | .endInString => "EOF while parsing a string"
  | .noValue => "expected value"
  | .badWord => "expected ident"
  | .badNumber => "invalid number"
  | .numberTooLarge => "number out of range"
  | .noCommaInArray => "expected `,` or `]`"
  | .noCommaInObject => "expected `,` or `\x7d`"
  | .trailingComma => "trailing comma"
  | .nameNotText => "key must be a string"
  | .noColon => "expected `:`"
  | .badEscape => "invalid escape"
  | .controlInString => "control character (\\u0000-\\u001F) found while parsing a string"
  | .loneSurrogate => "lone leading surrogate in hex escape"
  | .unfinishedPair => "unexpected end of hex escape"
  | .tooDeep => "recursion limit exceeded"
  | .trailingText => "trailing characters"

/-- A fault and its place. -/
structure Fault where
  /-- What is wrong. -/
  kind : FaultKind
  /-- What is left of the text. -/
  rest : List Char
  /-- Is the next byte of the rest the one that is wrong? Otherwise it is the one before. -/
  ahead : Bool
deriving Repr, DecidableEq

/-- The number of bytes of `text` up to where `rest` begins. -/
def columnOf (text rest : List Char) : Nat :=
  Text.Utf8.sizeOfChars text - Text.Utf8.sizeOfChars rest

/-- A message with its place in a text of one line. -/
def atColumn (message : String) (column : Nat) : String := s!"{message} at line 1 column {column}"

/-- The fault in words, for the text in which it was found. -/
def Fault.message (fault : Fault) (text : List Char) : String :=
  let column := columnOf text fault.rest
  atColumn fault.kind.message (if fault.ahead && !fault.rest.isEmpty then column + 1 else column)

end HostDaemon.Json
