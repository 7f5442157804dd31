import HostTelemetry.Reading.Coerce
import HostTelemetry.Text.Slug

namespace HostTelemetry.Sensor

-- Names that leave nothing behind are dropped as long as the path is empty.
def extend (path segment : String) : String :=
  if path.isEmpty then segment else path ++ "_" ++ segment

-- The nodes of a tree that are not objects, each with the path of names above it,
-- in the order of the fields.
mutual

def leaves (path : String) : Json → List (String × Json)
  | .object fields => leavesOfFields path fields
  | leaf => [(path, leaf)]

def leavesOfFields (path : String) : List (String × Json) → List (String × Json)
  | [] => []
  | (name, v) :: rest =>
      leaves (extend path (Text.slug name)) v ++ leavesOfFields path rest

end

def leafValue? : Json → Option Float
  | .bool b => some (if b then 1.0 else 0.0)
  | v => v.coerceFloat

def key (path : String) : String :=
  "sensor_" ++ path

-- Numeric leaves by key. Of two leaves with one path the later one counts.
def flatten (tree : Json) : Keyed Float :=
  Keyed.ofList ((leaves "" tree).filterMap fun (path, leaf) =>
    (leafValue? leaf).map fun v => (key path, v))

end HostTelemetry.Sensor
