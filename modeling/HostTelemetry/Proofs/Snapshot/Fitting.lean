import HostTelemetry.Proofs.Json.Fits
import HostTelemetry.Proofs.Snapshot.Flattening
import HostTelemetry.Sampler

namespace HostTelemetry

open Json (int_fits)

theorem clampInt_inRange (n : Int) : inIntRange (clampInt n) = true := by
  have hbounds : minInt ≤ maxInt := by decide
  exact inIntRange_iff.mpr ⟨le_max_left _ _, max_le hbounds (min_le_left _ _)⟩

theorem Json.coerceInt_inRange {v : Json} {n : Int} (h : v.coerceInt = some n) :
    inIntRange n = true := by
  cases v with
  | int m => cases h; exact clampInt_inRange m
  | float f =>
      rw [coerceInt] at h
      split at h
      · cases h; exact clampInt_inRange _
      · cases h
  | text s => exact (Option.filter_eq_some_iff.mp h).2
  | null | bool b | list items | object fields => cases h

namespace Reading

theorem int?_inRange {fields : Fields} {key : String} :
    ∀ n ∈ int? fields key, inIntRange n = true := by
  intro n hn
  obtain ⟨v, -, hv⟩ := Option.bind_eq_some_iff.mp hn
  exact Json.coerceInt_inRange hv

theorem swap?_inRange {fields : Fields} : ∀ n ∈ swap? fields, inIntRange n = true := by
  intro n hn
  rcases Option.or_eq_some_iff.mp hn with h | ⟨-, h⟩
  · exact int?_inRange n h
  · exact int?_inRange n h

end Reading

namespace Snapshot

def ints (s : Snapshot) : List (Option Int) :=
  [s.cpu, s.mem, s.swap, s.disk, s.uptime, s.ram, s.cores, s.cpuFreq, s.processes, s.pkgCount,
   s.docker]

-- Every integer of the snapshot is one that a reading can hold.
def Bounded (s : Snapshot) : Prop :=
  ∀ n? ∈ s.ints, ∀ n ∈ n?, inIntRange n = true

theorem fallback_bounded : fallback.Bounded := by
  unfold Bounded
  decide

theorem snapshotOf_bounded {output : String} {r : Reading} (h : Reading.parse output = .ok r)
    (d : Sampler.Derived) : (Sampler.snapshotOf r d).Bounded := by
  obtain ⟨fields, rfl⟩ : ∃ fields, Reading.ofFields fields = r := by
    unfold Reading.parse at h
    cases hfields : Reading.extractObject output with
    | error e => rw [hfields] at h; cases h
    | ok fields => rw [hfields] at h; exact ⟨fields, Except.ok.inj h⟩
  simp only [Bounded, ints, Sampler.snapshotOf, Reading.ofFields, List.forall_mem_cons]
  refine ⟨?_, ?_, ?_, ?_, ?_, ?_, ?_, ?_, ?_, ?_, ?_, List.forall_mem_nil _⟩
  all_goals first | exact Reading.int?_inRange | exact Reading.swap?_inRange

theorem ofFloat_fits (f : Float) : (Json.ofFloat f).ScalarFits := by
  unfold Json.ofFloat
  split <;> trivial

theorem ofFloat?_fits (f? : Option Float) : (ofFloat? f?).ScalarFits := by
  cases f? with
  | none => trivial
  | some f => exact ofFloat_fits f

theorem ofText?_fits (s? : Option String) : (ofText? s?).ScalarFits := by
  cases s? <;> trivial

theorem ofInt?_fits {n? : Option Int} (h : ∀ n ∈ n?, inIntRange n = true) :
    (ofInt? n?).ScalarFits := by
  cases n? with
  | none => trivial
  | some n => exact int_fits (h n rfl)

theorem Bounded.metrics_fit {s : Snapshot} (h : s.Bounded) : ∀ f ∈ s.metrics, f.2.ScalarFits := by
  simp only [Bounded, ints, List.forall_mem_cons] at h
  obtain ⟨hcpu, hmem, hswap, hdisk, huptime, hram, hcores, hfreq, hprocesses, hpkgs, hdocker, -⟩ := h
  simp only [metrics, List.forall_mem_cons]
  exact ⟨ofInt?_fits hcpu, ofInt?_fits hmem, ofInt?_fits hswap, ofInt?_fits hdisk,
    ofFloat?_fits _, ofFloat?_fits _, ofInt?_fits huptime, ofFloat?_fits _, ofFloat?_fits _,
    ofFloat?_fits _, ofFloat?_fits _, ofFloat?_fits _, ofInt?_fits hram, ofInt?_fits hcores,
    ofFloat?_fits _, ofFloat?_fits _, ofFloat?_fits _, ofInt?_fits hfreq, ofInt?_fits hprocesses,
    trivial, ofInt?_fits hpkgs, trivial, ofInt?_fits hdocker, trivial, trivial, trivial, trivial,
    trivial, ofFloat?_fits _, ofFloat?_fits _, List.forall_mem_nil _⟩

-- The lists of containers and disks hold objects of scalars, and nothing else holds
-- anything.
theorem Bounded.entries_fit {s : Snapshot} (h : s.Bounded) {depth : Nat} (hdepth : 2 ≤ depth) :
    ∀ f ∈ s.entries, f.2.Fits depth := by
  obtain ⟨depth, rfl⟩ := Nat.exists_eq_add_of_le' hdepth
  have hobject : ∀ fields : List (String × Json), (∀ f ∈ fields, f.2.ScalarFits) →
      (Json.ofKeyed fields).Fits (depth + 1) := fun fields hfields =>
    ⟨Keyed.ascending_ofList _, fun f hf => (hfields f (Keyed.mem_of_mem_ofList hf)).fits depth⟩
  intro f hf
  rcases mem_entries.mp hf with hmetric | ⟨c, -, hc⟩ | ⟨d, -, hd⟩ | ⟨sensor, -, rfl⟩ | hlist
  · exact (h.metrics_fit f hmetric).fits _
  · rcases List.mem_pair.mp hc with rfl | rfl <;> exact (ofFloat?_fits _).fits _
  · rcases List.mem_pair.mp hd with rfl | rfl <;> exact (ofFloat_fits _).fits _
  · exact (ofFloat_fits _).fits _
  · rcases List.mem_pair.mp hlist with rfl | rfl
    · refine List.forall_mem_map.mpr fun c _ => hobject _ ?_
      simp only [List.forall_mem_cons]
      exact ⟨trivial, trivial, ofFloat?_fits _, ofFloat?_fits _, List.forall_mem_nil _⟩
    · refine List.forall_mem_map.mpr fun d _ => hobject _ ?_
      simp only [List.forall_mem_cons]
      exact ⟨ofText?_fits _, ofText?_fits _, ofFloat_fits _, ofFloat_fits _, trivial, trivial,
        List.forall_mem_nil _⟩

end Snapshot

end HostTelemetry
