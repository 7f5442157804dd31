import HostTelemetry.Text.Hex

namespace HostTelemetry.Toml

-- Takes a value off the front of a text, or finds a fault. What a fault is does
-- not matter to anyone.
abbrev Scan (α : Type) := List Char → Option (α × List Char)

def isSpace (c : Char) : Bool :=
  c == ' ' || c == '\t'

-- The characters that may stand in comments and in texts of one line.
def isPlain (c : Char) : Bool :=
  c == '\t' || (0x20 ≤ c.toNat && c.toNat != 0x7F)

def skipSpace (s : List Char) : List Char :=
  s.dropWhile isSpace

-- Skips blanks, line ends and comments.
def skipGap (inComment : Bool) : List Char → List Char
  | [] => []
  | '\r' :: '\n' :: rest => skipGap false rest
  | c :: rest =>
      if c = '\n' then skipGap false rest
      else if inComment then if isPlain c then skipGap true rest else c :: rest
      else if isSpace c then skipGap false rest
      else if c = '#' then skipGap true rest
      else c :: rest

def newline? : List Char → Option (List Char)
  | '\n' :: rest => some rest
  | '\r' :: '\n' :: rest => some rest
  | _ => none

-- The end of a line that holds nothing more but blanks and a comment.
def lineEnd? (s : List Char) : Option (List Char) :=
  let s :=
    match skipSpace s with
    | '#' :: comment => comment.dropWhile isPlain
    | s => s
  if s.isEmpty then some [] else newline? s

def hexEscape (count : Nat) (s : List Char) : Option (Char × List Char) :=
  let digits := s.take count
  if digits.length < count then none
  else
    (Text.hexNumber? digits).bind fun n =>
      if n.isValidChar then some (Char.ofNat n, s.drop count) else none

def readEscape : Scan Char
  | [] => none
  | c :: rest =>
      match c with
      | 'b' => some ('\x08', rest)
      | 't' => some ('\t', rest)
      | 'n' => some ('\n', rest)
      | 'f' => some ('\x0c', rest)
      | 'r' => some ('\r', rest)
      | 'e' => some ('\x1b', rest)
      | '"' => some ('"', rest)
      | '\\' => some ('\\', rest)
      | 'x' => hexEscape 2 rest
      | 'u' => hexEscape 4 rest
      | 'U' => hexEscape 8 rest
      | _ => none

def push (c : Char) (read : Option (List Char × List Char)) : Option (List Char × List Char) :=
  read.map fun (cs, rest) => (c :: cs, rest)

-- The rest of a text in double quotes. No escape gives characters back.
def readBasic (s : List Char) : Option (List Char × List Char) :=
  match s with
  | [] => none
  | c :: rest =>
      if c = '"' then some ([], rest)
      else if c = '\\' then
        match readEscape rest with
        | none => none
        | some (d, rest') => if rest'.length ≤ rest.length then push d (readBasic rest') else none
      else if isPlain c then push c (readBasic rest)
      else none
  termination_by s.length

def readLiteral : Scan (List Char)
  | [] => none
  | c :: rest =>
      if c = '\'' then some ([], rest)
      else if isPlain c then push c (readLiteral rest)
      else none

-- A text over several lines ends at three quotes; up to two more quotes right
-- before them belong to the text.
def closing? (quote : Char) (s : List Char) : Option (List Char × List Char) :=
  let run := (s.takeWhile (· == quote)).length
  if run < 3 then none
  else
    let inside := min (run - 3) 2
    some (List.replicate inside quote, s.drop (inside + 3))

def skipBreaks : List Char → List Char
  | '\r' :: '\n' :: rest => skipBreaks rest
  | c :: rest => if isSpace c || c == '\n' then skipBreaks rest else c :: rest
  | [] => []

-- A backslash at the end of a line joins it with the next text.
def joined? (s : List Char) : Option (List Char) :=
  (newline? (skipSpace s)).map skipBreaks

def readLines (literal : Bool) (s : List Char) : Option (List Char × List Char) :=
  match closing? (if literal then '\'' else '"') s with
  | some ending => some ending
  | none =>
      match s with
      | [] => none
      | '\r' :: '\n' :: rest => push '\r' (push '\n' (readLines literal rest))
      | c :: rest =>
          if c = '\\' && !literal then
            match joined? rest with
            | some rest' => if rest'.length ≤ rest.length then readLines literal rest' else none
            | none =>
                match readEscape rest with
                | none => none
                | some (d, rest') =>
                    if rest'.length ≤ rest.length then push d (readLines literal rest') else none
          else if isPlain c || c == '\n' then push c (readLines literal rest)
          else none
  termination_by s.length

-- The line end right after the opening quotes does not count.
def afterOpening (s : List Char) : List Char :=
  (newline? s).getD s

def asText (read : Option (List Char × List Char)) : Option (String × List Char) :=
  read.map fun (cs, rest) => (String.ofList cs, rest)

-- A quoted text of any of the four forms.
def readText : Scan String
  | '"' :: '"' :: '"' :: rest => asText (readLines false (afterOpening rest))
  | '\'' :: '\'' :: '\'' :: rest => asText (readLines true (afterOpening rest))
  | '"' :: rest => asText (readBasic rest)
  | '\'' :: rest => asText (readLiteral rest)
  | _ => none

def isKeyChar (c : Char) : Bool :=
  c.isAlphanum || c == '_' || c == '-'

def readKeyPart (s : List Char) : Option (String × List Char) :=
  match s with
  | '"' :: rest => asText (readBasic rest)
  | '\'' :: rest => asText (readLiteral rest)
  | s =>
      let part := s.takeWhile isKeyChar
      if part.isEmpty then none else some (String.ofList part, s.dropWhile isKeyChar)

-- A key with what stands before its last dot, and the text after the blanks that
-- follow.
def readKey (s : List Char) : Option ((List String × String) × List Char) :=
  match readKeyPart s with
  | none => none
  | some (part, rest) =>
      match skipSpace rest with
      | '.' :: rest' =>
          let next := skipSpace rest'
          if next.length < s.length then
            (readKey next).map fun ((path, key), rest) => ((part :: path, key), rest)
          else none
      | rest' => some (([], part), rest')
  termination_by s.length

end HostTelemetry.Toml
