namespace HostTelemetry.Publish

-- How a dashboard should show one value.
structure Presentation where
  unit : Option String
  deviceClass : Option String
  stateClass : Option String
  isText : Bool
  deriving DecidableEq

namespace Presentation

def plain : Presentation := ⟨none, none, none, false⟩

def text : Presentation := ⟨none, none, none, true⟩

def measured (unit : String) : Presentation := ⟨some unit, none, none, false⟩

def classed (unit deviceClass : String) : Presentation := ⟨some unit, some deviceClass, none, false⟩

def textKeys : List String :=
  ["os", "pkg_list", "containers", "vnc", "web", "ssh", "local_ip"]

def startsWith (start s : String) : Bool :=
  start.toList.isPrefixOf s.toList

def endsWith (ending s : String) : Bool :=
  ending.toList.isSuffixOf s.toList

def holds (word : List Char) : List Char → Bool
  | [] => word.isEmpty
  | c :: cs => word.isPrefixOf (c :: cs) || holds word cs

def mentions (word s : String) : Bool :=
  holds word.toList s.toList

-- The unit of a sensor is guessed from the words in its path. Only letters of
-- ASCII are folded: no other letter folds to one of these words.
def ofSensor (key : String) : Presentation :=
  let lower := key.toLower
  if mentions "temp" lower then classed "°C" "temperature"
  else if mentions "fan" lower then measured "RPM"
  else if mentions "power" lower then classed "W" "power"
  else if startsWith "sensor_in" lower || mentions "volt" lower then classed "V" "voltage"
  else plain

def ofMetric (key : String) : Presentation :=
  match key with
  | "cpu" | "mem" | "swap" | "disk" => measured "%"
  | "net_in" | "net_out" | "disk_read" | "disk_write" => classed "B/s" "data_rate"
  | "uptime" => classed "s" "duration"
  | "temp" => classed "°C" "temperature"
  | "swap_total" => classed "GiB" "data_size"
  | "ram" => measured "MB"
  | "cpu_freq" => classed "MHz" "frequency"
  | "power_w" => classed "W" "power"
  | "energy_kwh_total" => ⟨some "kWh", some "energy", some "total_increasing", false⟩
  | _ => plain

def ofKey (key : String) : Presentation :=
  if textKeys.contains key then text
  else if startsWith "sensor_" key then ofSensor key
  else if startsWith "container_" key then measured "%"
  else if startsWith "disk_" key && (endsWith "_total" key || endsWith "_free" key) then
    classed "GiB" "data_size"
  else ofMetric key

end Presentation

end HostTelemetry.Publish
