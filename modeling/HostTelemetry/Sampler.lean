import HostTelemetry.Counter.Energy
import HostTelemetry.Counter.Rate
import HostTelemetry.Decimal.Rounding
import HostTelemetry.Reading.Extract
import HostTelemetry.Sensor
import HostTelemetry.Snapshot

namespace HostTelemetry

open Decimal (roundTo)

-- What has to be remembered of every host to turn counters into rates.
structure Sampler where
  net : Counter.RateMeter Float
  disk : Counter.RateMeter Float
  energy : Counter.EnergyMeter

namespace Sampler

def empty : Sampler := ⟨[], [], []⟩

def gib (bytes : Int) : Float :=
  roundTo (Float.ofInt bytes / 1073741824.0) 2

-- A key is taken over from the name, with a number from two on behind it when
-- the name alone will not do.
def candidate (base : String) : Nat → String
  | 0 => base
  | n + 1 => base ++ "_" ++ Nat.repr (n + 2)

-- The keys of a free identifier belong to no other entry and to no metric.
def isFree (category : Category) (taken : List String) (id : String) : Bool :=
  id ∉ taken && (category.entityKeys id).all (· ∉ metricKeys)

-- The first free candidate. At most one candidate is a metric, so one more than
-- those taken and that one has to be free.
def claim (category : Category) (taken : List String) (base : String) : String :=
  (((List.range (taken.length + 2)).map (candidate base)).find? (isFree category taken)).getD base

def claimAll (category : Category) (taken : List String) : List String → List String
  | [] => []
  | base :: rest =>
      let key := claim category taken base
      key :: claimAll category (key :: taken) rest

-- A nameless container is left out.
def usableContainers (cs : List Reading.Container) : List Reading.Container :=
  cs.filter fun c => Text.slug c.name ≠ ""

def containerStats (cs : List Reading.Container) : List Snapshot.Container :=
  let usable := usableContainers cs
  let keys := claimAll .container [] (usable.map fun c => Text.slug c.name)
  usable.zipWith (fun c key => ⟨c.name, key, c.cpu, c.mem⟩) keys

-- What the key of a disk is made from, and its label: its name, and its mount point too
-- when that differs.
def diskSource? (name mount : Option String) : Option (String × String) :=
  match name, mount with
  | some name, some mount =>
      if name ≠ mount then some (name ++ "_" ++ mount, name ++ " (" ++ mount ++ ")")
      else some (name, name)
  | some name, none => some (name, name)
  | none, some mount => some (mount, mount)
  | none, none => none

-- A disk without a name goes by its mount point. Blank texts name nothing.
def diskStat? (d : Reading.Disk) : Option Snapshot.Disk :=
  let name := (d.name.filter (· ≠ "")).or d.mount
  let mount := d.mount.filter (· ≠ "")
  (diskSource? name mount).bind fun (source, label) =>
    let key := Text.slug source
    if key.isEmpty then none
    else some ⟨name, mount, gib (d.total.getD 0), gib (d.free.getD 0), label, key⟩

def diskStats (ds : List Reading.Disk) : List Snapshot.Disk :=
  let usable := ds.filterMap diskStat?
  let keys := claimAll .disk [] (usable.map (·.key))
  usable.zipWith (fun d key => { d with key := key }) keys

-- A pair of rates needs both counters; otherwise the meter is left alone.
def measurePair (meter : Counter.RateMeter Float) (host : String) (first second : Option Int)
    (now : Float) : Option (Float × Float) × Counter.RateMeter Float :=
  match first, second with
  | some first, some second =>
      let (rates, meter) := meter.measure host ⟨first, second, now⟩
      (some rates, meter)
  | _, _ => (none, meter)

-- The parts of a sample that depend on the samples before it.
structure Derived where
  net : Option (Float × Float)
  disk : Option (Float × Float)
  energy : Option Counter.Energy

def derive (s : Sampler) (host : String) (r : Reading) (now : Float) : Derived × Sampler :=
  let (net, netMeter) := measurePair s.net host r.rx r.tx now
  let (disk, diskMeter) := measurePair s.disk host r.diskRead r.diskWrite now
  let (energy, energyMeter) := s.energy.measure host r.energyUj r.energyRangeUj
  (⟨net, disk, energy⟩, ⟨netMeter, diskMeter, energyMeter⟩)

def snapshotOf (r : Reading) (d : Derived) : Snapshot where
  cpu := r.cpu
  mem := r.mem
  swap := r.swap
  disk := r.disk
  diskCapacityTotal := r.diskCapacityTotal.map gib
  swapTotal := r.swapTotal.map gib
  uptime := r.uptime
  temp := r.temp
  netIn := d.net.map fun rates => roundTo rates.1 2
  netOut := d.net.map fun rates => roundTo rates.2 2
  diskRead := d.disk.map fun rates => roundTo rates.1 2
  diskWrite := d.disk.map fun rates => roundTo rates.2 2
  ram := r.ram
  cores := r.cores
  load1 := r.load1
  load5 := r.load5
  load15 := r.load15
  cpuFreq := r.cpuFreq
  processes := r.processes
  os := r.os
  pkgCount := r.pkgCount
  pkgList := r.pkgList
  docker := r.docker
  containers := r.containers
  vnc := r.vnc
  web := r.web
  ssh := r.ssh
  localIp := r.localIp
  powerW := r.powerW.map fun w => roundTo w 2
  energyKwhTotal := d.energy.map fun e => roundTo e.kwh 5
  containerStats := containerStats r.containerStats
  diskStats := diskStats r.diskStats
  sensors := Sensor.flatten (.object r.sensors)

def observe (s : Sampler) (host : String) (r : Reading) (now : Float) : Snapshot × Sampler :=
  let (derived, s) := s.derive host r now
  (snapshotOf r derived, s)

-- Reads what a host printed at the time `now`, in seconds. Output that cannot be
-- read leaves nothing behind.
def normalize (s : Sampler) (host output : String) (now : Float) :
    Except SampleFault Snapshot × Sampler :=
  match Reading.parse output with
  | .error e => (.error e, s)
  | .ok r =>
      let (snapshot, s) := s.observe host r now
      (.ok snapshot, s)

end Sampler

end HostTelemetry
