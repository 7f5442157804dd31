import HostTelemetry.Proofs.Sampler.Memory
import Mathlib.Data.List.Induction

namespace HostTelemetry.Sampler

open Counter (Baseline Energy EnergyMeter RateMeter ratesSince)
open Decimal (roundTo)

-- What a host printed, and when it arrived.
structure Call where
  host : String
  output : String
  now : Float

-- A new sampler after calls for any hosts in any order.
def after (calls : List Call) : Sampler :=
  calls.foldl (fun s call => (s.normalize call.host call.output call.now).2) empty

-- What the successful calls for a host read, and when.
def accepted (host : String) (calls : List Call) : List (Reading × Float) :=
  calls.filterMap fun call =>
    if call.host = host then (Reading.parse call.output).toOption.map fun r => (r, call.now)
    else none

-- Each meter is fed its own part of the readings: those with both counters of
-- its pair, or all of them for the energy meter.
def netCounts (readings : List (Reading × Float)) : List (Baseline Float) :=
  readings.filterMap fun reading => baseline? reading.1.rx reading.1.tx reading.2

def diskCounts (readings : List (Reading × Float)) : List (Baseline Float) :=
  readings.filterMap fun reading => baseline? reading.1.diskRead reading.1.diskWrite reading.2

def energyCounts (readings : List (Reading × Float)) : List (Option Int × Option Int) :=
  readings.map fun reading => (reading.1.energyUj, reading.1.energyRangeUj)

-- A new meter that has only been used for one host.
def rateMeterFed (host : String) (counts : List (Baseline Float)) : RateMeter Float :=
  counts.foldl (fun meter count => (meter.measure host count).2) []

def energyMeterFed (host : String) (counts : List (Option Int × Option Int)) : EnergyMeter :=
  counts.foldl (fun meter count => (meter.measure host count.1 count.2).2) []

-- The answer of such a meter to one more call.
def ratesAlone (host : String) (counts : List (Baseline Float)) (now : Baseline Float) :
    Float × Float :=
  ((rateMeterFed host counts).measure host now).1

def energyAlone (host : String) (counts : List (Option Int × Option Int))
    (count range : Option Int) : Option Energy :=
  ((energyMeterFed host counts).measure host count range).1

def memoryFed (host : String) (readings : List (Reading × Float)) : Memory :=
  ⟨(rateMeterFed host (netCounts readings)).find? host,
   (rateMeterFed host (diskCounts readings)).find? host,
   (energyMeterFed host (energyCounts readings)).find? host⟩

theorem rateMeterFed_append_find? (host : String) (counts : List (Baseline Float))
    (count : Option (Baseline Float)) :
    (rateMeterFed host (counts ++ count.toList)).find? host =
      count.or ((rateMeterFed host counts).find? host) := by
  cases count with
  | none => simp
  | some count =>
      simp only [rateMeterFed, Option.toList_some, List.foldl_append, List.foldl_cons,
        List.foldl_nil, RateMeter.measure, Keyed.find?_insert, if_true, Option.some_or]

theorem filterMap_concat {α β : Type} (f : α → Option β) (items : List α) (item : α) :
    (items ++ [item]).filterMap f = items.filterMap f ++ (f item).toList := by
  rw [List.filterMap_append]
  cases h : f item <;> simp [h]

theorem memoryFed_concat (host : String) (readings : List (Reading × Float)) (r : Reading)
    (now : Float) :
    memoryFed host (readings ++ [(r, now)]) = ((memoryFed host readings).derive r now).2 := by
  have henergy : energyMeterFed host (energyCounts (readings ++ [(r, now)])) =
      ((energyMeterFed host (energyCounts readings)).measure host r.energyUj
        r.energyRangeUj).2 := by
    simp [energyMeterFed, energyCounts]
  simp only [memoryFed, netCounts, diskCounts, filterMap_concat, rateMeterFed_append_find?,
    henergy, (energy_measure_eq _ _ _ _).2, Memory.derive, if_true]

theorem accepted_concat (host : String) (calls : List Call) (call : Call) :
    accepted host (calls ++ [call]) = accepted host calls ++
      (if call.host = host then (Reading.parse call.output).toOption.map fun r => (r, call.now)
       else none).toList :=
  filterMap_concat _ calls call

-- Calls for other hosts and calls that fail leave no trace in a host's memory.
theorem memory_after (host : String) (calls : List Call) :
    (after calls).memory host = memoryFed host (accepted host calls) := by
  induction calls using List.reverseRecOn with
  | nil => rfl
  | append_singleton calls call ih =>
      have hafter : after (calls ++ [call]) =
          ((after calls).normalize call.host call.output call.now).2 := by
        simp [after]
      rw [hafter, normalize_memory, accepted_concat]
      cases hr : Reading.parse call.output with
      | error e => simpa [Except.toOption] using ih
      | ok r =>
          by_cases hh : call.host = host
          · subst hh
            simp only [if_true, Except.toOption, Option.map_some, Option.toList_some,
              memoryFed_concat, ih]
          · simpa [hh] using ih

theorem normalize_isOk (s : Sampler) (host output : String) (now : Float) :
    (s.normalize host output now).1.isOk = (Reading.parse output).isOk := by
  rw [normalize_fst]
  cases Reading.parse output <;> rfl

-- A sampler is three meters for each host, and each of them sees its own part of
-- that host's readings and nothing else.
theorem normalize_after {calls : List Call} {host output : String} {now : Float}
    {snapshot : Snapshot} (h : ((after calls).normalize host output now).1 = .ok snapshot) :
    (∀ (s : Sampler) (call : Call),
      (s.normalize call.host call.output call.now).1.isOk = (Reading.parse call.output).isOk) ∧
    ∃ r, Reading.parse output = .ok r ∧
      let net := (baseline? r.rx r.tx now).map (ratesAlone host (netCounts (accepted host calls)))
      let disk := (baseline? r.diskRead r.diskWrite now).map
        (ratesAlone host (diskCounts (accepted host calls)))
      let energy := energyAlone host (energyCounts (accepted host calls)) r.energyUj
        r.energyRangeUj
      snapshot.netIn = net.map (fun rates => roundTo rates.1 2) ∧
      snapshot.netOut = net.map (fun rates => roundTo rates.2 2) ∧
      snapshot.diskRead = disk.map (fun rates => roundTo rates.1 2) ∧
      snapshot.diskWrite = disk.map (fun rates => roundTo rates.2 2) ∧
      snapshot.energyKwhTotal = energy.map (fun e => roundTo e.kwh 5) ∧
      { snapshot with
        netIn := none, netOut := none, diskRead := none, diskWrite := none,
        energyKwhTotal := none } = snapshotOf r ⟨none, none, none⟩ ∧
      ∀ calls', accepted host calls' = accepted host calls →
        ((after calls').normalize host output now).1 = .ok snapshot := by
  obtain ⟨r, hr, rfl⟩ := normalize_eq_ok_iff.mp h
  refine ⟨fun s call => normalize_isOk s _ _ _, r, hr, ?_⟩
  have hderived : (((after calls).memory host).derive r now).1 =
      ⟨(baseline? r.rx r.tx now).map (ratesAlone host (netCounts (accepted host calls))),
       (baseline? r.diskRead r.diskWrite now).map
        (ratesAlone host (diskCounts (accepted host calls))),
       energyAlone host (energyCounts (accepted host calls)) r.energyUj r.energyRangeUj⟩ := by
    rw [memory_after, energyAlone, (energy_measure_eq _ _ _ _).1]
    rfl
  rw [hderived]
  refine ⟨rfl, rfl, rfl, rfl, rfl, rfl, fun calls' hsame => ?_⟩
  rw [normalize_eq_ok_iff]
  exact ⟨r, hr, by rw [memory_after, hsame, ← memory_after, hderived]⟩

-- Between the first reading and the next one of that host stand a reading of
-- another host, output that is no report and a report that lacks a counter.
def mixedCalls : List Call :=
  [⟨"web", "\x7b\"rx\":1000,\"tx\":0\x7d", 0⟩, ⟨"db", "\x7b\"rx\":9000,\"tx\":0\x7d", 1⟩,
   ⟨"web", "connection reset", 1⟩, ⟨"web", "\x7b\"rx\":1500\x7d", 1⟩]

theorem normalize_after_mixedCalls :
    ∃ snapshot r,
      ((after mixedCalls).normalize "web" "\x7b\"rx\":3000,\"tx\":0\x7d" 2).1 = .ok snapshot ∧
      Reading.parse "\x7b\"rx\":3000,\"tx\":0\x7d" = .ok r ∧
      snapshot.netIn = ((baseline? r.rx r.tx 2).map (ratesAlone "web" (netCounts
        (accepted "web" mixedCalls)))).map fun rates => roundTo rates.1 2 := by
  have hok : (Reading.parse "\x7b\"rx\":3000,\"tx\":0\x7d").isOk := by decide +kernel
  cases hr : Reading.parse "\x7b\"rx\":3000,\"tx\":0\x7d" with
  | error e => rw [hr] at hok; cases hok
  | ok r =>
      have h : ((after mixedCalls).normalize "web" "\x7b\"rx\":3000,\"tx\":0\x7d" 2).1 =
          .ok (snapshotOf r (((after mixedCalls).memory "web").derive r 2).1) :=
        normalize_eq_ok_iff.mpr ⟨r, hr, rfl⟩
      obtain ⟨-, r', hr', hnet, -⟩ := normalize_after h
      obtain rfl : r = r' := Except.ok.inj (hr.symm.trans hr')
      exact ⟨_, r, h, rfl, hnet⟩

end HostTelemetry.Sampler
