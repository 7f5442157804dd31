import HostTelemetry.Json.Value
import HostTelemetry.Record.Basic

namespace HostTelemetry.Record

open Json (Reader opened expect foldList foldObject afterColon readValue maxDepth readAll)

-- A record may hold containers up to `depth` deep.
def reader (depth : Nat) : Reader Record :=
  opened '\x7b' (expect (fun fields => ofFields? fields.reverse)
    (foldObject true (fun acc name =>
      (afterColon (readValue true depth)).map fun v => (name, v) :: acc) true []))

def listReader (depth : Nat) : Reader (List Record) :=
  opened '[' ((foldList (fun acc => (reader depth).map (· :: acc)) true []).map List.reverse)

-- The list and the record are two of the containers that may be nested.
def readList? (s : String) : Option (List Record) :=
  (readAll (listReader (maxDepth - 2)) s.toList).toOption

end HostTelemetry.Record

namespace HostTelemetry.Report

open Json (Reader opened expect foldList foldObject afterColon readValue skipValue maxDepth readAll
  failBefore skipSpace)
open Record (listReader)

structure Draft where
  timestamp : Option Int
  hosts : Option (List Record)

def Draft.complete? (d : Draft) : Option Report := do
  return ⟨← d.timestamp, ← d.hosts⟩

def timestampReader : Reader Int :=
  expect Record.integer? (readValue true 0)

def hostsReader : Reader (List Record) :=
  listReader (maxDepth - 3)

-- A field may be given once; those of other names are passed over.
def readField (d : Draft) (name : String) : Reader Draft :=
  if name = "timestamp" then
    afterColon (expect (fun t => if d.timestamp.isSome then none else some { d with timestamp := some t })
      timestampReader)
  else if name = "hosts" then
    afterColon (expect (fun hs => if d.hosts.isSome then none else some { d with hosts := some hs })
      hostsReader)
  else (afterColon skipValue).map fun _ => d

-- The fields of a report may also stand in a list, in their order.
def readItem (d : Draft) : Reader Draft :=
  match d with
  | ⟨none, _⟩ => timestampReader.map fun t => ⟨some t, none⟩
  | ⟨some t, none⟩ => hostsReader.map fun hs => ⟨some t, some hs⟩
  | ⟨some _, some _⟩ => fun s => failBefore .trailingText s

def reader : Reader Report :=
  expect Draft.complete? fun s =>
    match (skipSpace s).1 with
    | '[' :: _ => opened '[' (foldList readItem true ⟨none, none⟩) s
    | _ => opened '\x7b' (foldObject true readField true ⟨none, none⟩) s

def read? (s : String) : Option Report :=
  (readAll reader s.toList).toOption

end HostTelemetry.Report
