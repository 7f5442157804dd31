import HostTelemetry.Json.Basic
import HostTelemetry.Reading.Coerce

namespace HostTelemetry

-- The last known state of a host. `error` tells why the values are only a
-- fallback; the time is in milliseconds.
structure Record where
  name : String
  available : Bool
  error : Option String
  timestamp : Int
  values : Keyed Json

namespace Record

def ownNames : List String := ["name", "available", "error", "timestamp"]

def errorField : Option String → List (String × Json)
  | none => []
  | some e => [("error", .text e)]

-- The fields as they are written: its own first, then the values.
def fields (r : Record) : List (String × Json) :=
  [("name", .text r.name), ("available", .bool r.available)] ++ errorField r.error ++
    [("timestamp", .int r.timestamp)] ++ r.values

def toJson (r : Record) : Json :=
  .object r.fields

def texts? : Json → Option String
  | .text s => some s
  | _ => none

def flag? : Json → Option Bool
  | .bool b => some b
  | _ => none

def integer? : Json → Option Int
  | .int n => if inIntRange n then some n else none
  | _ => none

-- An error that is null is none.
def error? : Option Json → Option (Option String)
  | none => some none
  | some .null => some none
  | some (.text e) => some (some e)
  | some _ => none

-- None of its own fields may be given twice; of any other the last counts.
def ofFields? (fields : List (String × Json)) : Option Record :=
  if ownNames.any (fun own => 1 < (fields.filter fun f => f.1 = own).length) then none
  else do
    let name ← (Keyed.find? "name" fields).bind texts?
    let available ← (Keyed.find? "available" fields).bind flag?
    let error ← error? (Keyed.find? "error" fields)
    let timestamp ← (Keyed.find? "timestamp" fields).bind integer?
    return { name, available, error, timestamp,
             values := Keyed.ofList (fields.filter fun f => f.1 ∉ ownNames) }

def ofJson? : Json → Option Record
  | .object fields => ofFields? fields
  | _ => none

end Record

-- What one tick produced, in the order of the hosts.
structure Report where
  timestamp : Int
  hosts : List Record

namespace Report

def failed (r : Report) : Nat :=
  r.hosts.countP fun h => !h.available

def toJson (r : Report) : Json :=
  .object [("timestamp", .int r.timestamp), ("hosts", .list (r.hosts.map Record.toJson))]

end Report

end HostTelemetry
