namespace HostTelemetry

-- The kinds of thing that a host reports values for.
inductive Category where
  | metric
  | container
  | disk
  | sensor
  deriving DecidableEq

namespace Category

def all : List Category := [metric, container, disk, sensor]

def name : Category → String
  | metric => "metric"
  | container => "container"
  | disk => "disk"
  | sensor => "sensor"

def ofName? (s : String) : Option Category :=
  all.find? fun category => category.name = s

-- The value keys that belong to one identifier.
def entityKeys (id : String) : Category → List String
  | metric => [id]
  | sensor => [id]
  | container => ["container_" ++ id ++ "_cpu", "container_" ++ id ++ "_mem"]
  | disk => ["disk_" ++ id ++ "_total", "disk_" ++ id ++ "_free"]

end Category

-- The values that every host reports, in the order of their announcement.
def metricKeys : List String :=
  ["cpu", "mem", "swap", "disk", "disk_capacity_total", "swap_total", "uptime", "temp",
   "net_in", "net_out", "disk_read", "disk_write", "ram", "cores", "load_1", "load_5",
   "load_15", "cpu_freq", "processes", "os", "pkg_count", "pkg_list", "docker", "containers",
   "vnc", "web", "ssh", "local_ip", "power_w", "energy_kwh_total"]

end HostTelemetry
