import HostTelemetry.Toml.Value

namespace HostTelemetry.Toml

-- What has been read of a document, and the path of the table whose header was
-- read last.
structure Document where
  fields : Fields
  current : List String

def Document.empty : Document := ⟨[], []⟩

def Document.enter (d : Document) (change : String → Change) (path : List String) (key : String) :
    Option Document :=
  (updateAt .path (change key) .header d.fields path).map fun fields => ⟨fields, path ++ [key]⟩

def Document.assign (d : Document) (path : List String) (key : String) (v : Toml) :
    Option Document :=
  (updateAt .path (fun _ fields => Toml.assign path key v fields) .header d.fields d.current).map
    fun fields => { d with fields := fields }

def readHeader (s : List Char) : Option ((List String × String) × List Char) :=
  readKey (skipSpace s)

-- One line with something on it, up to what may follow on that line.
def Document.readLine (d : Document) (s : List Char) : Option (Document × List Char) :=
  match s with
  | '[' :: '[' :: rest =>
      match readHeader rest with
      | some ((path, key), ']' :: ']' :: rest) => (d.enter appendTable path key).map (·, rest)
      | _ => none
  | '[' :: rest =>
      match readHeader rest with
      | some ((path, key), ']' :: rest) => (d.enter openTable path key).map (·, rest)
      | _ => none
  | s =>
      match readEntry (readValue maxDepth) s with
      | some (((path, key), v), rest) => (d.assign path key v).map (·, rest)
      | none => none

def Document.readAll (d : Document) (s : List Char) : Option Document :=
  match skipGap false s with
  | [] => some d
  | start =>
      match d.readLine start with
      | none => none
      | some (d, rest) =>
          match lineEnd? rest with
          | none => none
          | some rest => if rest.length < s.length then Document.readAll d rest else none
  termination_by s.length

def withoutMark : List Char → List Char
  | c :: rest => if c.toNat = 0xFEFF then rest else c :: rest
  | [] => []

def parse? (s : String) : Option Fields :=
  (Document.empty.readAll (withoutMark s.toList)).map (·.fields)

end HostTelemetry.Toml
