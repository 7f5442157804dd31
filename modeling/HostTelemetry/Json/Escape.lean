import HostTelemetry.Json.Reader
import HostTelemetry.Text.Hex

namespace HostTelemetry.Json

open Text (hexNumber?)

-- Four bytes are taken whatever they are, so a long character can be cut.
def hexFault (s : List Char) : Fault :=
  if byteLength s < 4 then ⟨.eofText, 0⟩ else ⟨.badEscape, byteLength s - 4⟩

def readHex4 (s : List Char) : Except Fault (Nat × Within s) :=
  match s with
  | a :: b :: c :: d :: rest =>
      match hexNumber? [a, b, c, d] with
      | some n => .ok (n, ⟨rest, by simp only [List.length_cons]; omega⟩)
      | none => .error (hexFault s)
  | s => .error (hexFault s)

def isHighSurrogate (n : Nat) : Bool :=
  0xD800 ≤ n && n ≤ 0xDBFF

def isLowSurrogate (n : Nat) : Bool :=
  0xDC00 ≤ n && n ≤ 0xDFFF

-- The second half of a character that is written as two escapes.
def readLowSurrogate (high : Nat) (s : List Char) : Except Fault (Char × Within s) :=
  match s with
  | [] => failBefore .eofText []
  | ['\\'] => failBefore .eofText []
  | '\\' :: 'u' :: rest =>
      match readHex4 rest with
      | .error e => .error e
      | .ok (low, r) =>
          if isLowSurrogate low then
            .ok (Char.ofNat (0x10000 + (high - 0xD800) * 0x400 + (low - 0xDC00)),
              ⟨r.1, Nat.le_succ_of_le (Nat.le_succ_of_le r.2)⟩)
          else failBefore .loneSurrogate r.1
  | '\\' :: rest => failAt .shortEscape rest
  | s => failAt .shortEscape s

def readUnicode (strict : Bool) (s : List Char) : Except Fault (Char × Within s) :=
  match readHex4 s with
  | .error e => .error e
  | .ok (n, r) =>
      if !strict then .ok (Char.ofNat n, r)
      else if isLowSurrogate n then failBefore .loneSurrogate r.1
      else if isHighSurrogate n then
        match readLowSurrogate n r.1 with
        | .error e => .error e
        | .ok (c, r') => .ok (c, ⟨r'.1, Nat.le_trans r'.2 r.2⟩)
      else .ok (Char.ofNat n, r)

def shortEscape? (c : Char) : Option Char :=
  match c with
  | '"' => some '"'
  | '\\' => some '\\'
  | '/' => some '/'
  | 'b' => some '\x08'
  | 'f' => some '\x0c'
  | 'n' => some '\n'
  | 'r' => some '\r'
  | 't' => some '\t'
  | _ => none

def readEscape (strict : Bool) (s : List Char) : Except Fault (Char × Within s) :=
  match s with
  | [] => failBefore .eofText []
  | 'u' :: rest =>
      match readUnicode strict rest with
      | .error e => .error e
      | .ok (c, r) => .ok (c, ⟨r.1, r.le_cons⟩)
  | c :: rest =>
      match shortEscape? c with
      | some d => .ok (d, ⟨rest, length_le_cons rest⟩)
      | none => failAt .badEscape (c :: rest)

-- The next character of a quoted text, or `none` at the closing quote.
def readPiece (strict : Bool) : Reader (Option Char)
  | [] => failBefore .eofText []
  | c :: rest =>
      if c = '"' then .ok (none, ⟨rest, length_lt_cons rest⟩)
      else if c = '\\' then
        match readEscape strict rest with
        | .error e => .error e
        | .ok (d, r) => .ok (some d, ⟨r.1, r.lt_cons⟩)
      else if c.toNat < 0x20 then failAt .controlChar (c :: rest)
      else .ok (some c, ⟨rest, length_lt_cons rest⟩)

-- The rest of a quoted text after its opening quote.
def readText (strict : Bool) : Reader (List Char) := fun s =>
  match readPiece strict s with
  | .error e => .error e
  | .ok (none, r) => .ok ([], r)
  | .ok (some c, r) =>
      match readText strict r.1 with
      | .error e => .error e
      | .ok (cs, r') => .ok (c :: cs, ⟨r'.1, Nat.lt_trans r'.2 r.2⟩)
  termination_by s => s.length
  decreasing_by exact r.2

end HostTelemetry.Json
