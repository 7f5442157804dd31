import HostTelemetry.Json.Basic
import HostTelemetry.Entity

namespace HostTelemetry

namespace Snapshot

-- `key` is the part of the value keys that stands for this container.
structure Container where
  name : String
  key : String
  cpu : Option Float
  mem : Option Float

-- Sizes are in GiB.
structure Disk where
  name : Option String
  mount : Option String
  total : Float
  free : Float
  label : String
  key : String

end Snapshot

-- One sample of a host: rates instead of counters, and a key for everything.
structure Snapshot where
  cpu : Option Int
  mem : Option Int
  swap : Option Int
  disk : Option Int
  diskCapacityTotal : Option Float
  swapTotal : Option Float
  uptime : Option Int
  temp : Option Float
  netIn : Option Float
  netOut : Option Float
  diskRead : Option Float
  diskWrite : Option Float
  ram : Option Int
  cores : Option Int
  load1 : Option Float
  load5 : Option Float
  load15 : Option Float
  cpuFreq : Option Int
  processes : Option Int
  os : String
  pkgCount : Option Int
  pkgList : String
  docker : Option Int
  containers : String
  vnc : String
  web : String
  ssh : String
  localIp : String
  powerW : Option Float
  energyKwhTotal : Option Float
  containerStats : List Snapshot.Container
  diskStats : List Snapshot.Disk
  sensors : Keyed Float

namespace Snapshot

def ofInt? : Option Int → Json := Json.ofOption .int

def ofFloat? : Option Float → Json := Json.ofOption Json.ofFloat

def ofText? : Option String → Json := Json.ofOption .text

def Container.toJson (c : Container) : Json :=
  .ofKeyed [("name", .text c.name), ("key", .text c.key), ("cpu", ofFloat? c.cpu),
    ("mem", ofFloat? c.mem)]

def Disk.toJson (d : Disk) : Json :=
  .ofKeyed [("name", ofText? d.name), ("mount", ofText? d.mount), ("total", .ofFloat d.total),
    ("free", .ofFloat d.free), ("label", .text d.label), ("key", .text d.key)]

def metrics (s : Snapshot) : List (String × Json) :=
  [("cpu", ofInt? s.cpu), ("mem", ofInt? s.mem), ("swap", ofInt? s.swap),
   ("disk", ofInt? s.disk), ("disk_capacity_total", ofFloat? s.diskCapacityTotal),
   ("swap_total", ofFloat? s.swapTotal), ("uptime", ofInt? s.uptime), ("temp", ofFloat? s.temp),
   ("net_in", ofFloat? s.netIn), ("net_out", ofFloat? s.netOut),
   ("disk_read", ofFloat? s.diskRead), ("disk_write", ofFloat? s.diskWrite),
   ("ram", ofInt? s.ram), ("cores", ofInt? s.cores), ("load_1", ofFloat? s.load1),
   ("load_5", ofFloat? s.load5), ("load_15", ofFloat? s.load15), ("cpu_freq", ofInt? s.cpuFreq),
   ("processes", ofInt? s.processes), ("os", .text s.os), ("pkg_count", ofInt? s.pkgCount),
   ("pkg_list", .text s.pkgList), ("docker", ofInt? s.docker),
   ("containers", .text s.containers), ("vnc", .text s.vnc), ("web", .text s.web),
   ("ssh", .text s.ssh), ("local_ip", .text s.localIp), ("power_w", ofFloat? s.powerW),
   ("energy_kwh_total", ofFloat? s.energyKwhTotal)]

def Container.entries (c : Container) : List (String × Json) :=
  [("container_" ++ c.key ++ "_cpu", ofFloat? c.cpu),
   ("container_" ++ c.key ++ "_mem", ofFloat? c.mem)]

def Disk.entries (d : Disk) : List (String × Json) :=
  [("disk_" ++ d.key ++ "_total", .ofFloat d.total),
   ("disk_" ++ d.key ++ "_free", .ofFloat d.free)]

def entries (s : Snapshot) : List (String × Json) :=
  s.metrics ++ s.containerStats.flatMap Container.entries ++ s.diskStats.flatMap Disk.entries ++
    s.sensors.map (fun (key, v) => (key, .ofFloat v)) ++
    [("container_stats", .list (s.containerStats.map Container.toJson)),
     ("disk_stats", .list (s.diskStats.map Disk.toJson))]

-- The flat view of a sample, as it is published and stored.
def values (s : Snapshot) : Keyed Json :=
  Keyed.ofList s.entries

def containerKeys (s : Snapshot) : List String :=
  s.containerStats.map (·.key)

def diskKeys (s : Snapshot) : List String :=
  s.diskStats.map (·.key)

def sensorKeys (s : Snapshot) : List String :=
  s.sensors.keys

-- The identifiers that a sample shows in each category.
def ids (s : Snapshot) : Category → List String
  | .metric => metricKeys
  | .container => s.containerKeys
  | .disk => s.diskKeys
  | .sensor => s.sensorKeys

-- Stands for a host that gave no sample. Readings that a host may lack stay
-- unknown; all others are zero or blank.
def fallback : Snapshot where
  cpu := some 0
  mem := some 0
  swap := some 0
  disk := some 0
  diskCapacityTotal := some 0
  swapTotal := some 0
  uptime := some 0
  temp := none
  netIn := some 0
  netOut := some 0
  diskRead := some 0
  diskWrite := some 0
  ram := some 0
  cores := some 0
  load1 := some 0
  load5 := some 0
  load15 := some 0
  cpuFreq := none
  processes := some 0
  os := ""
  pkgCount := some 0
  pkgList := ""
  docker := some 0
  containers := ""
  vnc := ""
  web := ""
  ssh := ""
  localIp := ""
  powerW := none
  energyKwhTotal := none
  containerStats := []
  diskStats := []
  sensors := []

end Snapshot

end HostTelemetry
