import HostTelemetry.Json.Number
import HostTelemetry.Json.Escape

namespace HostTelemetry.Json

variable {σ α β : Type}

-- Where the items of a list or the fields of an object go on.
inductive Next (s : List Char) where
  | done (rest : Shorter s)
  | more (rest : Within s)

-- `first` holds before the first item, when no comma may stand.
def nextItem (first : Bool) (s : List Char) : Except Fault (Next s) :=
  match skipSpace s with
  | ⟨[], _⟩ => failBefore .eofList []
  | ⟨c :: rest, h⟩ =>
      if c = ']' then .ok (.done ⟨rest, h⟩)
      else if first then .ok (.more ⟨c :: rest, h⟩)
      else if c = ',' then
        match skipSpace rest with
        | ⟨[], _⟩ => failBefore .eofValue []
        | ⟨d :: rest', h'⟩ =>
            if d = ']' then failAt .trailingComma (d :: rest')
            else .ok (.more ⟨d :: rest', Nat.le_trans h' (Nat.le_of_lt h)⟩)
      else failAt .noListEnd (c :: rest)

-- The items of a list after its opening bracket.
def foldList (step : σ → Reader σ) (first : Bool) (acc : σ) : Reader σ := fun s =>
  match nextItem first s with
  | .error e => .error e
  | .ok (.done r) => .ok (acc, r)
  | .ok (.more r) =>
      match step acc r.1 with
      | .error e => .error e
      | .ok (acc, r') =>
          have : r'.1.length < s.length := Nat.lt_of_lt_of_le r'.2 r.2
          match foldList step false acc r'.1 with
          | .error e => .error e
          | .ok (acc, r'') => .ok (acc, ⟨r''.1, Nat.lt_trans r''.2 this⟩)
  termination_by s => s.length

-- A field starts with the quote of its name; what is left follows that quote.
def nextField (first : Bool) (s : List Char) : Except Fault (Next s) :=
  match skipSpace s with
  | ⟨[], _⟩ => failBefore .eofObject []
  | ⟨c :: rest, h⟩ =>
      if c = '\x7d' then .ok (.done ⟨rest, h⟩)
      else if first then
        if c = '"' then .ok (.more ⟨rest, length_le_of_cons_le h⟩)
        else failAt .keyNotText (c :: rest)
      else if c = ',' then
        match skipSpace rest with
        | ⟨[], _⟩ => failBefore .eofValue []
        | ⟨d :: rest', h'⟩ =>
            if d = '"' then
              .ok (.more ⟨rest', Nat.le_of_lt (Nat.lt_trans h' h)⟩)
            else if d = '\x7d' then failAt .trailingComma (d :: rest')
            else failAt .keyNotText (d :: rest')
      else failAt .noObjectEnd (c :: rest)

def readColon (s : List Char) : Except Fault (Within s) :=
  match skipSpace s with
  | ⟨[], _⟩ => failBefore .eofObject []
  | ⟨c :: rest, h⟩ =>
      if c = ':' then .ok ⟨rest, length_le_of_cons_le h⟩ else failAt .noColon (c :: rest)

-- A value after the colon that separates it from its name.
def afterColon (reader : Reader α) : Reader α := fun s =>
  match readColon s with
  | .error e => .error e
  | .ok r => widen r.2 (reader r.1)

-- The fields of an object after its opening brace. A step is given the name of
-- a field and reads on from there, colon included.
def foldObject (strict : Bool) (step : σ → String → Reader σ) (first : Bool) (acc : σ) :
    Reader σ := fun s =>
  match nextField first s with
  | .error e => .error e
  | .ok (.done r) => .ok (acc, r)
  | .ok (.more r) =>
      match readText strict r.1 with
      | .error e => .error e
      | .ok (name, r₁) =>
          match step acc (String.ofList name) r₁.1 with
          | .error e => .error e
          | .ok (acc, r₂) =>
              have : r₂.1.length < s.length :=
                Nat.lt_of_lt_of_le (Nat.lt_trans r₂.2 r₁.2) r.2
              match foldObject strict step false acc r₂.1 with
              | .error e => .error e
              | .ok (acc, r₃) => .ok (acc, ⟨r₃.1, Nat.lt_trans r₃.2 this⟩)
  termination_by s => s.length

-- A value that is neither list nor object; its first character is not a blank.
def readScalar (strict : Bool) : Reader Json
  | [] => failBefore .eofValue []
  | c :: rest =>
      let word (letters : List Char) (value : Json) : Except Fault (Json × Shorter (c :: rest)) :=
        match expectWord letters rest with
        | .error e => .error e
        | .ok r => .ok (value, ⟨r.1, r.lt_cons⟩)
      if c = 'n' then word ['u', 'l', 'l'] .null
      else if c = 't' then word ['r', 'u', 'e'] (.bool true)
      else if c = 'f' then word ['a', 'l', 's', 'e'] (.bool false)
      else if c = '"' then
        match readText strict rest with
        | .error e => .error e
        | .ok (cs, r) => .ok (.text (String.ofList cs), ⟨r.1, Nat.lt_succ_of_lt r.2⟩)
      else if c = '-' ∨ c.isDigit then readNumber strict (c :: rest)
      else failAt .noValue (c :: rest)

-- A value whose items and fields are read by `inner`; without it no container may
-- be opened.
def readNested (strict : Bool) (inner : Option (Reader Json)) : Reader Json := fun s =>
  match skipSpace s with
  | ⟨[], _⟩ => failBefore .eofValue []
  | ⟨c :: rest, h⟩ =>
      if c = '[' then
        match inner with
        | none => failAt .tooDeep (c :: rest)
        | some item =>
            widen (length_le_of_cons_le h)
              ((foldList (fun acc => item.map (· :: acc)) true []).map
                (fun items => .list items.reverse) rest)
      else if c = '\x7b' then
        match inner with
        | none => failAt .tooDeep (c :: rest)
        | some item =>
            widen (length_le_of_cons_le h)
              ((foldObject strict (fun acc name => (afterColon item).map fun v => (name, v) :: acc)
                true []).map (fun fields => .ofKeyed fields.reverse) rest)
      else widen h (readScalar strict (c :: rest))

-- A value with at most `depth` containers inside one another.
def readValue (strict : Bool) : Nat → Reader Json
  | 0 => readNested strict none
  | depth + 1 => readNested strict (some (readValue strict depth))

-- Passes over a value that nobody asked for: neither its depth nor the range of
-- its numbers nor its surrogates matter.
def skipValue : Reader Unit := fun s =>
  (readValue false s.length).map (fun _ => ()) s

def maxDepth : Nat := 127

-- Keeps what a value stands for, or finds that it is of the wrong shape.
def expect (decode : α → Option β) (reader : Reader α) : Reader β := fun s =>
  match reader s with
  | .error e => .error e
  | .ok (a, r) =>
      match decode a with
      | some b => .ok (b, r)
      | none => failBefore .shape r.1

-- Opens a container by its bracket.
def opened (bracket : Char) (inside : Reader α) : Reader α := fun s =>
  match skipSpace s with
  | ⟨[], _⟩ => failBefore .eofValue []
  | ⟨c :: rest, h⟩ =>
      if c = bracket then widen (length_le_of_cons_le h) (inside rest)
      else failAt .shape (c :: rest)

-- Runs a reader over a whole text.
def readAll (reader : Reader α) (s : List Char) : Except Fault α :=
  match reader s with
  | .error e => .error e
  | .ok (a, r) =>
      match skipSpace r.1 with
      | ⟨[], _⟩ => .ok a
      | ⟨c :: rest, _⟩ => failAt .trailingText (c :: rest)

def parseChars (s : List Char) : Except Fault Json :=
  readAll (readValue true maxDepth) s

-- Parses a text; the error is the message that names the place.
def parse (s : String) : Except String Json :=
  match parseChars s.toList with
  | .ok v => .ok v
  | .error e => .error (e.message s.toList)

end HostTelemetry.Json
