import HostTelemetry.Toml.Scalar
import HostTelemetry.Toml.Table

namespace HostTelemetry.Toml

-- The items of a list after its opening bracket; a comma may end them.
def readItems (item : Scan Toml) (s : List Char) : Option (List Toml × List Char) :=
  match skipGap false s with
  | ']' :: rest => some ([], rest)
  | start =>
      match item start with
      | none => none
      | some (v, rest) =>
          match skipGap false rest with
          | ']' :: rest => some ([v], rest)
          | ',' :: rest =>
              if rest.length < s.length then
                (readItems item rest).map fun (vs, rest) => (v :: vs, rest)
              else none
          | _ => none
  termination_by s.length

def readEntry (item : Scan Toml) : Scan ((List String × String) × Toml) := fun s =>
  match readKey s with
  | some (key, '=' :: rest) => (item (skipSpace rest)).map fun (v, rest) => ((key, v), rest)
  | _ => none

-- The fields of an inline table after its opening brace.
def readFields (item : Scan Toml) (fields : Fields) (s : List Char) :
    Option (Fields × List Char) :=
  match skipGap false s with
  | '\x7d' :: rest => some (fields, rest)
  | start =>
      match readEntry item start with
      | none => none
      | some (((path, key), v), rest) =>
          match assign path key v fields with
          | none => none
          | some fields =>
              match skipGap false rest with
              | '\x7d' :: rest => some (fields, rest)
              | ',' :: rest =>
                  if rest.length < s.length then readFields item fields rest else none
              | _ => none
  termination_by s.length

def readNested (inner : Option (Scan Toml)) : Scan Toml
  | [] => none
  | c :: rest =>
      if c = '[' then
        inner.bind fun item =>
          (readItems item rest).map fun (vs, rest) => (.list vs, rest)
      else if c = '\x7b' then
        inner.bind fun item =>
          (readFields item [] rest).map fun (fields, rest) => (.table .inline fields, rest)
      else if c = '"' ∨ c = '\'' then
        (readText (c :: rest)).map fun (s, rest) => (.text s, rest)
      else readScalar (c :: rest)

-- A value with at most `depth` lists and inline tables inside one another.
def readValue : Nat → Scan Toml
  | 0 => readNested none
  | depth + 1 => readNested (some (readValue depth))

def maxDepth : Nat := 80

end HostTelemetry.Toml
