import HostTelemetry.Reading.Coerce

namespace HostTelemetry

-- What is wrong with one field of a remote report. The field then counts as
-- absent.
inductive Diagnostic where
  | notInteger (key : String) (value : Json)
  | notNumber (key : String) (value : Json)
  | notList (key : String) (value : Json)
  | notMap (key : String) (value : Json)
  | notObject (key : String) (entry : Json)

def Diagnostic.message : Diagnostic → String
  | notInteger key value => key ++ ": not an integer: " ++ value.render
  | notNumber key value => key ++ ": not a number: " ++ value.render
  | notList key value => key ++ ": expected list, got " ++ value.kind
  | notMap key value => key ++ ": expected map, got " ++ value.kind
  | notObject key entry => key ++ ": skipping non-object entry " ++ entry.render

namespace Reading

abbrev Fields := List (String × Json)

structure Container where
  name : String
  cpu : Option Float
  mem : Option Float

-- Sizes are in bytes.
structure Disk where
  name : Option String
  mount : Option String
  total : Option Int
  free : Option Int

-- A field that is null counts as absent.
def present? (fields : Fields) (key : String) : Option Json :=
  (Keyed.find? key fields).filter fun v => !v.isNull

def int? (fields : Fields) (key : String) : Option Int :=
  (present? fields key).bind Json.coerceInt

def float? (fields : Fields) (key : String) : Option Float :=
  (present? fields key).bind Json.coerceFloat

def text (fields : Fields) (key : String) : String :=
  ((present? fields key).map Json.textOf).getD ""

def entries (fields : Fields) (key : String) : List Json :=
  match present? fields key with
  | some (.list items) => items
  | _ => []

def map (fields : Fields) (key : String) : Fields :=
  match present? fields key with
  | some (.object entries) => entries
  | _ => []

def intDiagnostics (fields : Fields) (key : String) : List Diagnostic :=
  match present? fields key with
  | some v => if v.coerceInt.isNone then [.notInteger key v] else []
  | none => []

def floatDiagnostics (fields : Fields) (key : String) : List Diagnostic :=
  match present? fields key with
  | some v => if v.coerceFloat.isNone then [.notNumber key v] else []
  | none => []

def entryDiagnostics (key : String) : Json → List Diagnostic
  | .object _ => []
  | entry => [.notObject key entry]

def listDiagnostics (fields : Fields) (key : String) : List Diagnostic :=
  match present? fields key with
  | some (.list items) => items.flatMap (entryDiagnostics key)
  | some v => [.notList key v]
  | none => []

def mapDiagnostics (fields : Fields) (key : String) : List Diagnostic :=
  match present? fields key with
  | some (.object _) => []
  | some v => [.notMap key v]
  | none => []

def Container.ofJson? : Json → Option Container
  | .object fields =>
      some {
        name := ((Keyed.find? "name" fields).map Json.textOf).getD ""
        cpu := (Keyed.find? "cpu" fields).bind Json.coerceFloat
        mem := (Keyed.find? "mem" fields).bind Json.coerceFloat }
  | _ => none

def nonEmpty (s : String) : Option String :=
  if s.isEmpty then none else some s

def Disk.ofJson? : Json → Option Disk
  | .object fields =>
      some {
        name := (Keyed.find? "name" fields).bind fun v => nonEmpty v.textOf
        mount := (Keyed.find? "mount" fields).bind fun v => nonEmpty v.textOf
        total := (Keyed.find? "total" fields).bind Json.coerceInt
        free := (Keyed.find? "free" fields).bind Json.coerceInt }
  | _ => none

-- The older name of the field counts when the newer one gives nothing.
def swap? (fields : Fields) : Option Int :=
  (int? fields "swap_usage").or (int? fields "swap")

def swapDiagnostics (fields : Fields) : List Diagnostic :=
  match int? fields "swap_usage" with
  | some _ => []
  | none => intDiagnostics fields "swap_usage" ++ intDiagnostics fields "swap"

-- The numeric fields in the order in which they are looked at.
inductive Numeric where
  | int (key : String)
  | float (key : String)

def numericFields : List Numeric :=
  [.int "cpu", .int "mem", .int "disk", .int "disk_capacity_total", .int "swap_total",
   .int "uptime", .float "temp", .int "rx", .int "tx", .int "disk_read", .int "disk_write",
   .int "ram", .int "cores", .float "load_1", .float "load_5", .float "load_15",
   .int "cpu_freq", .int "processes", .int "pkg_count", .int "docker", .float "power_w",
   .int "energy_uj", .int "energy_range_uj"]

def numericDiagnostics (fields : Fields) : Numeric → List Diagnostic
  | .int key => intDiagnostics fields key
  | .float key => floatDiagnostics fields key

end Reading

-- The report of a host field by field. Whatever cannot be read is absent and
-- leaves a diagnostic; no field disturbs another.
structure Reading where
  cpu : Option Int
  mem : Option Int
  swap : Option Int
  disk : Option Int
  diskCapacityTotal : Option Int
  swapTotal : Option Int
  uptime : Option Int
  temp : Option Float
  rx : Option Int
  tx : Option Int
  diskRead : Option Int
  diskWrite : Option Int
  ram : Option Int
  cores : Option Int
  load1 : Option Float
  load5 : Option Float
  load15 : Option Float
  cpuFreq : Option Int
  processes : Option Int
  os : String
  pkgCount : Option Int
  pkgList : String
  docker : Option Int
  containers : String
  vnc : String
  web : String
  ssh : String
  localIp : String
  powerW : Option Float
  energyUj : Option Int
  energyRangeUj : Option Int
  containerStats : List Reading.Container
  diskStats : List Reading.Disk
  sensors : Reading.Fields
  diagnostics : List Diagnostic

namespace Reading

def diagnose (fields : Fields) : List Diagnostic :=
  swapDiagnostics fields ++ listDiagnostics fields "container_stats" ++
    listDiagnostics fields "disk_stats" ++ mapDiagnostics fields "sensors" ++
    numericFields.flatMap (numericDiagnostics fields)

def ofFields (fields : Fields) : Reading where
  cpu := int? fields "cpu"
  mem := int? fields "mem"
  swap := swap? fields
  disk := int? fields "disk"
  diskCapacityTotal := int? fields "disk_capacity_total"
  swapTotal := int? fields "swap_total"
  uptime := int? fields "uptime"
  temp := float? fields "temp"
  rx := int? fields "rx"
  tx := int? fields "tx"
  diskRead := int? fields "disk_read"
  diskWrite := int? fields "disk_write"
  ram := int? fields "ram"
  cores := int? fields "cores"
  load1 := float? fields "load_1"
  load5 := float? fields "load_5"
  load15 := float? fields "load_15"
  cpuFreq := int? fields "cpu_freq"
  processes := int? fields "processes"
  os := text fields "os"
  pkgCount := int? fields "pkg_count"
  pkgList := text fields "pkg_list"
  docker := int? fields "docker"
  containers := text fields "containers"
  vnc := text fields "vnc"
  web := text fields "web"
  ssh := text fields "ssh"
  localIp := text fields "local_ip"
  powerW := float? fields "power_w"
  energyUj := int? fields "energy_uj"
  energyRangeUj := int? fields "energy_range_uj"
  containerStats := (entries fields "container_stats").filterMap Container.ofJson?
  diskStats := (entries fields "disk_stats").filterMap Disk.ofJson?
  sensors := map fields "sensors"
  diagnostics := diagnose fields

end Reading

end HostTelemetry
