import HostTelemetry.Proofs.Keyed
import HostTelemetry.Sampler

namespace HostTelemetry.Sampler

open Counter (Baseline Energy ratesSince)

-- What is remembered of one host.
structure Memory where
  net : Option (Baseline Float)
  disk : Option (Baseline Float)
  energy : Option Energy

def memory (s : Sampler) (host : String) : Memory :=
  ⟨s.net.find? host, s.disk.find? host, s.energy.find? host⟩

-- Both counters of a pair with the time of reading, if both were read.
def baseline? (first second : Option Int) (now : Float) : Option (Baseline Float) :=
  match first, second with
  | some first, some second => some ⟨first, second, now⟩
  | _, _ => none

namespace Memory

-- What one host's reading comes to, from what is remembered of that host alone.
def derive (m : Memory) (r : Reading) (now : Float) : Derived × Memory :=
  let net := baseline? r.rx r.tx now
  let disk := baseline? r.diskRead r.diskWrite now
  let energy := r.energyUj.map fun count => Energy.next m.energy count r.energyRangeUj
  (⟨net.map (ratesSince m.net), disk.map (ratesSince m.disk), energy⟩,
   ⟨net.or m.net, disk.or m.disk, energy⟩)

end Memory

theorem measurePair_eq (meter : Counter.RateMeter Float) (host : String)
    (first second : Option Int) (now : Float) :
    (measurePair meter host first second now).1 =
        (baseline? first second now).map (ratesSince (meter.find? host)) ∧
      ∀ other, (measurePair meter host first second now).2.find? other =
        if host = other then (baseline? first second now).or (meter.find? other)
        else meter.find? other := by
  cases first with
  | none => simp [measurePair, baseline?]
  | some first =>
      cases second with
      | none => simp [measurePair, baseline?]
      | some second =>
          refine ⟨rfl, fun other => ?_⟩
          simp only [measurePair, baseline?, Counter.RateMeter.measure, Keyed.find?_insert,
            Option.some_or]

theorem energy_measure_eq (meter : Counter.EnergyMeter) (host : String)
    (count range : Option Int) :
    (meter.measure host count range).1 =
        count.map (fun count => Energy.next (meter.find? host) count range) ∧
      ∀ other, (meter.measure host count range).2.find? other =
        if host = other then count.map fun count => Energy.next (meter.find? host) count range
        else meter.find? other := by
  cases count with
  | none => exact ⟨rfl, fun other => Keyed.find?_erase host other meter⟩
  | some count => exact ⟨rfl, fun other => Keyed.find?_insert host other _ meter⟩

theorem derive_eq (s : Sampler) (host : String) (r : Reading) (now : Float) :
    (s.derive host r now).1 = ((s.memory host).derive r now).1 ∧
      ∀ other, (s.derive host r now).2.memory other =
        if host = other then ((s.memory host).derive r now).2 else s.memory other := by
  obtain ⟨hnet, hnet'⟩ := measurePair_eq s.net host r.rx r.tx now
  obtain ⟨hdisk, hdisk'⟩ := measurePair_eq s.disk host r.diskRead r.diskWrite now
  obtain ⟨henergy, henergy'⟩ := energy_measure_eq s.energy host r.energyUj r.energyRangeUj
  refine ⟨?_, fun other => ?_⟩
  · simp only [derive, hnet, hdisk, henergy, Memory.derive, memory]
  · simp only [derive, memory, hnet', hdisk', henergy', Memory.derive]
    split
    · next h => subst h; rfl
    · rfl

-- Output that can be read gives a snapshot whatever came before.
theorem normalize_fst (s : Sampler) (host output : String) (now : Float) :
    (s.normalize host output now).1 =
      (Reading.parse output).map fun r => snapshotOf r ((s.memory host).derive r now).1 := by
  cases h : Reading.parse output with
  | error e => simp only [normalize, h, Except.map]
  | ok r => simp only [normalize, h, observe, (derive_eq s host r now).1, Except.map]

theorem normalize_memory (s : Sampler) (host output : String) (now : Float) (other : String) :
    (s.normalize host output now).2.memory other =
      match Reading.parse output with
      | .ok r => if host = other then ((s.memory host).derive r now).2 else s.memory other
      | .error _ => s.memory other := by
  cases h : Reading.parse output with
  | error e => simp only [normalize, h]
  | ok r => simp only [normalize, h, observe, (derive_eq s host r now).2 other]

theorem normalize_eq_ok_iff {s : Sampler} {host output : String} {now : Float}
    {snapshot : Snapshot} :
    (s.normalize host output now).1 = .ok snapshot ↔
      ∃ r, Reading.parse output = .ok r ∧
        snapshot = snapshotOf r ((s.memory host).derive r now).1 := by
  rw [normalize_fst]
  cases Reading.parse output with
  | error e => simp [Except.map]
  | ok r => simp [Except.map, eq_comm]

end HostTelemetry.Sampler
