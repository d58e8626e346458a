/-
# Flaws of a JSON text and where they are

A reader of JSON stops at the first flaw. The message names it together with a line
and a column; columns count the bytes passed on the line so far. A reader knows
only the text that it has not read yet, so a flaw records how many bytes were left, and
the line and column are computed from the whole text once, at the end.

A flaw is either where the reader stands (`here`), or at the character it looks at
without having taken it (`next`); in the second case the first byte of
that character counts as passed, unless there is no further character.
-/

namespace MetricBridge.Json

/-- What is wrong with a text. -/
inductive Problem where
  | unfinishedList
  | unfinishedObject
  | unfinishedString
  | unfinishedValue
  | colonExpected
  | commaOrBracketExpected
  | commaOrBraceExpected
  | wordExpected
  | valueExpected
  | badEscape
  | badNumber
  | numberTooGreat
  | controlCharacter
  | keyNotString
  | loneSurrogate
  | brokenSurrogatePair
  | trailingComma
  | trailingCharacters
  /-- A value of the wrong kind. -/
  | wrongKind (found expected : String)
  /-- A value of the right kind out of its bounds. -/
  | wrongValue (found expected : String)
  /-- Too few elements. -/
  | wrongLength (length : Nat) (expected : String)
  | missingField (name : String)
  | duplicateField (name : String)
  /-- A string that does not have the form it should have. -/
  | badContent (reason : String)
  deriving DecidableEq

namespace Problem

/-- The wording of each problem, without its place. -/
def message : Problem → String
  | unfinishedList => "EOF while parsing a list"
  | unfinishedObject => "EOF while parsing an object"
  | unfinishedString => "EOF while parsing a string"
  | unfinishedValue => "EOF while parsing a value"
  | colonExpected => "expected `:`"
  | commaOrBracketExpected => "expected `,` or `]`"
  | commaOrBraceExpected => "expected `,` or `\x7d`"
  | wordExpected => "expected ident"
  | valueExpected => "expected value"
  | badEscape => "invalid escape"
  | badNumber => "invalid number"
  | numberTooGreat => "number out of range"
  | controlCharacter =>
    "control character (\\u0000-\\u001F) found while parsing a string"
  | keyNotString => "key must be a string"
  | loneSurrogate => "lone leading surrogate in hex escape"
  | brokenSurrogatePair => "unexpected end of hex escape"
  | trailingComma => "trailing comma"
  | trailingCharacters => "trailing characters"
  | wrongKind found expected => "invalid type: " ++ found ++ ", expected " ++ expected
  | wrongValue found expected => "invalid value: " ++ found ++ ", expected " ++ expected
  | wrongLength length expected =>
    "invalid length " ++ toString length ++ ", expected " ++ expected
  | missingField name => "missing field `" ++ name ++ "`"
  | duplicateField name => "duplicate field `" ++ name ++ "`"
  | badContent reason => reason

end Problem

/-- A problem and the number of bytes of the text behind it. -/
structure Flaw where
  problem : Problem
  unread : Nat
  deriving DecidableEq

/-- The number of bytes that a text takes. -/
def byteCount (text : List Char) : Nat :=
  text.foldl (fun count c => count + c.utf8Size) 0

namespace Flaw

/-- A problem at the point reached. -/
def here (problem : Problem) (rest : List Char) : Flaw :=
  ⟨problem, byteCount rest⟩

/-- A problem with the character that comes next, or with there being none. -/
def next (problem : Problem) (rest : List Char) : Flaw :=
  ⟨problem, byteCount rest - 1⟩

end Flaw

/-- A line, counted from one, and the bytes passed on it. -/
structure Position where
  line : Nat
  column : Nat
  deriving DecidableEq

namespace Position

/-- The position so many bytes after a position at which `text` goes on. -/
def advance (position : Position) : Nat → List Char → Position
  | _, [] => position
  | bytes, c :: rest =>
    if bytes = 0 then position
    else if c = '\n' then advance ⟨position.line + 1, 0⟩ (bytes - 1) rest
    else if c.utf8Size ≤ bytes then
      advance ⟨position.line, position.column + c.utf8Size⟩ (bytes - c.utf8Size) rest
    else ⟨position.line, position.column + bytes⟩

end Position

namespace Flaw

/-- Where in the whole text the flaw is. -/
def position (text : List Char) (flaw : Flaw) : Position :=
  Position.advance ⟨1, 0⟩ (byteCount text - flaw.unread) text

/-- The message about a flaw of a text. -/
def report (text : List Char) (flaw : Flaw) : String :=
  let position := flaw.position text
  flaw.problem.message ++ " at line " ++ toString position.line ++
    " column " ++ toString position.column

end Flaw

end MetricBridge.Json
