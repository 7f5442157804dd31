namespace HostTelemetry.Json

-- What can be wrong with a JSON text. `shape` is a well-formed value of a kind
-- that the reader of a particular record does not take.
inductive Problem where
  | eofValue
  | eofList
  | eofObject
  | eofText
  | noColon
  | noListEnd
  | noObjectEnd
  | badLiteral
  | noValue
  | keyNotText
  | trailingComma
  | trailingText
  | badEscape
  | badNumber
  | numberRange
  | loneSurrogate
  | shortEscape
  | controlChar
  | tooDeep
  | shape
  deriving DecidableEq

def Problem.message : Problem → String
  | .eofValue => "EOF while parsing a value"
  | .eofList => "EOF while parsing a list"
  | .eofObject => "EOF while parsing an object"
  | .eofText => "EOF while parsing a string"
  | .noColon => "expected `:`"
  | .noListEnd => "expected `,` or `]`"
  | .noObjectEnd => "expected `,` or `\x7d`"
  | .badLiteral => "expected ident"
  | .noValue => "expected value"
  | .keyNotText => "key must be a string"
  | .trailingComma => "trailing comma"
  | .trailingText => "trailing characters"
  | .badEscape => "invalid escape"
  | .badNumber => "invalid number"
  | .numberRange => "number out of range"
  | .loneSurrogate => "lone leading surrogate in hex escape"
  | .shortEscape => "unexpected end of hex escape"
  | .controlChar => "control character (\\u0000-\\u001F) found while parsing a string"
  | .tooDeep => "recursion limit exceeded"
  | .shape => "invalid type"

-- `left` counts the bytes that were not yet read when the problem was found; the
-- offending byte has been read.
structure Fault where
  problem : Problem
  left : Nat
  deriving DecidableEq

def byteLength (cs : List Char) : Nat :=
  cs.foldl (fun n c => n + c.utf8Size) 0

-- The line and the bytes read on it after `count` more bytes of the text.
def placeFrom (line column : Nat) : Nat → List Char → Nat × Nat
  | _, [] => (line, column)
  | count, c :: cs =>
      if count < c.utf8Size then (line, column + count)
      else if c = '\n' then placeFrom (line + 1) 0 (count - 1) cs
      else placeFrom line (column + c.utf8Size) (count - c.utf8Size) cs

def Fault.message (fault : Fault) (text : List Char) : String :=
  let (line, column) := placeFrom 1 0 (byteLength text - fault.left) text
  fault.problem.message ++ " at line " ++ Nat.repr line ++ " column " ++ Nat.repr column

end HostTelemetry.Json
