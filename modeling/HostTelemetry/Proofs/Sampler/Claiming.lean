import HostTelemetry.Proofs.Entity.Ownership
import HostTelemetry.Sampler
import Mathlib.Tactic.Common

namespace HostTelemetry.Sampler

theorem repr_injective : Function.Injective Nat.repr := by
  intro m n h
  have hdigits : Nat.toDigits 10 m = Nat.toDigits 10 n := by
    rw [← Nat.toList_repr, ← Nat.toList_repr, h]
  have hread := congrArg (Nat.ofDigitChars 10 · 0) hdigits
  simpa only [Nat.ofDigitChars_ten_toDigits] using hread

theorem candidate_injective (base : String) : Function.Injective (candidate base) := by
  intro m n h
  cases m with
  | zero =>
      cases n with
      | zero => rfl
      | succ n =>
          have hl := congrArg (fun s => s.toList.length) h
          simp [candidate] at hl
  | succ m =>
      cases n with
      | zero =>
          have hl := congrArg (fun s => s.toList.length) h
          simp [candidate] at hl
      | succ n =>
          simp only [candidate, String.append_right_inj] at h
          have hnumber := repr_injective h
          omega

-- A value key of the identifier would shadow a metric.
def Reserved (category : Category) (id : String) : Prop :=
  ∃ key ∈ category.entityKeys id, key ∈ metricKeys

theorem isFree_iff {category : Category} {taken : List String} {id : String} :
    isFree category taken id ↔ id ∉ taken ∧ ¬Reserved category id := by
  simp [isFree, Reserved]

theorem not_reserved_container (id : String) : ¬Reserved .container id := by
  rintro ⟨key, hk, hm⟩
  have hid : Category.container.Identifies id := trivial
  exact (Category.hasForm_of_mem hid hk).1 hm

theorem reserved_disk_iff {id : String} : Reserved .disk id ↔ id = "capacity" := by
  constructor
  · rintro ⟨key, hk, hm⟩
    have honly : ∀ metric ∈ metricKeys, "disk_".toList <+: metric.toList →
        "_total".toList <:+ metric.toList ∨ "_free".toList <:+ metric.toList →
        metric ∈ Category.disk.entityKeys "capacity" := by decide
    obtain ⟨hlead, htail⟩ := Category.framed_of_mem hk
    exact Category.id_eq_of_mem hk (honly key hm hlead htail)
  · rintro rfl
    exact ⟨"disk_capacity_total", by decide, by decide⟩

-- What the search for a free key relies on.
def ReservesAtMostOne (category : Category) : Prop :=
  ∀ ⦃id id' : String⦄, Reserved category id → Reserved category id' → id = id'

theorem container_reservesAtMostOne : ReservesAtMostOne .container :=
  fun id _ h _ => absurd h (not_reserved_container id)

theorem disk_reservesAtMostOne : ReservesAtMostOne .disk :=
  fun _ _ h h' => (reserved_disk_iff.mp h).trans (reserved_disk_iff.mp h').symm

-- The candidates differ from each other, so those taken and the one that is
-- reserved cannot use up one more than their number.
theorem exists_isFree {category : Category} (hc : ReservesAtMostOne category)
    (taken : List String) (base : String) :
    ∃ n < taken.length + 2, isFree category taken (candidate base n) := by
  by_contra hnone
  have hused : ∀ n < taken.length + 2,
      candidate base n ∈ taken ∨ Reserved category (candidate base n) := by
    intro n hn
    by_contra hfree
    exact hnone ⟨n, hn, isFree_iff.mpr (not_or.mp hfree)⟩
  obtain ⟨extra, hextra⟩ : ∃ extra, ∀ n < taken.length + 2, candidate base n ∈ extra :: taken := by
    by_cases hr : ∃ n < taken.length + 2, Reserved category (candidate base n)
    · obtain ⟨n, -, hn⟩ := hr
      refine ⟨candidate base n, fun m hm => ?_⟩
      rcases hused m hm with ht | hm
      · exact List.mem_cons_of_mem _ ht
      · exact hc hm hn ▸ List.mem_cons_self
    · refine ⟨base, fun m hm => List.mem_cons_of_mem _ ?_⟩
      exact (hused m hm).resolve_right fun h => hr ⟨m, hm, h⟩
  have hnodup : ((List.range (taken.length + 2)).map (candidate base)).Nodup :=
    List.nodup_range.map (candidate_injective base)
  have hsubset : (List.range (taken.length + 2)).map (candidate base) ⊆ extra :: taken := by
    intro id hid
    obtain ⟨n, hn, rfl⟩ := List.mem_map.mp hid
    exact hextra n (List.mem_range.mp hn)
  have hl := hnodup.length_le_of_subset hsubset
  simp only [List.length_map, List.length_range, List.length_cons] at hl
  omega

theorem claim_isFree {category : Category} (hc : ReservesAtMostOne category)
    (taken : List String) (base : String) :
    isFree category taken (claim category taken base) := by
  obtain ⟨n, hn, hfree⟩ := exists_isFree hc taken base
  unfold claim
  cases hfind : ((List.range (taken.length + 2)).map (candidate base)).find?
      (isFree category taken) with
  | none =>
      have hmem := List.mem_map_of_mem (f := candidate base) (List.mem_range.mpr hn)
      exact absurd hfree (List.find?_eq_none.mp hfind _ hmem)
  | some key => exact List.find?_some hfind

theorem length_claimAll (category : Category) (taken bases : List String) :
    (claimAll category taken bases).length = bases.length := by
  induction bases generalizing taken with
  | nil => rfl
  | cons base rest ih => simp only [claimAll, List.length_cons, ih]

theorem claimAll_free {category : Category} (hc : ReservesAtMostOne category)
    {taken bases : List String} {key : String} (hk : key ∈ claimAll category taken bases) :
    key ∉ taken ∧ ¬Reserved category key := by
  induction bases generalizing taken with
  | nil => cases hk
  | cons base rest ih =>
      rcases List.mem_cons.mp hk with rfl | hr
      · exact isFree_iff.mp (claim_isFree hc taken base)
      · obtain ⟨hnot, hfree⟩ := ih hr
        exact ⟨fun ht => hnot (List.mem_cons_of_mem _ ht), hfree⟩

theorem nodup_claimAll {category : Category} (hc : ReservesAtMostOne category)
    (taken bases : List String) : (claimAll category taken bases).Nodup := by
  induction bases generalizing taken with
  | nil => exact List.nodup_nil
  | cons base rest ih =>
      exact List.nodup_cons.mpr ⟨fun hk => (claimAll_free hc hk).1 List.mem_cons_self, ih _⟩

theorem zipWith_right {α β : Type} (items : List α) (keys : List β)
    (h : keys.length = items.length) : items.zipWith (fun _ key => key) keys = keys := by
  rw [← List.map_uncurry_zip_eq_zipWith]
  exact List.map_snd_zip h.le

theorem containerStats_keys (cs : List Reading.Container) :
    (containerStats cs).map (·.key) =
      claimAll .container [] ((usableContainers cs).map fun c => Text.slug c.name) := by
  rw [containerStats, List.map_zipWith]
  exact zipWith_right _ _ (by simp [length_claimAll])

theorem diskStats_keys (ds : List Reading.Disk) :
    (diskStats ds).map (·.key) =
      claimAll .disk [] ((ds.filterMap diskStat?).map (·.key)) := by
  rw [diskStats, List.map_zipWith]
  exact zipWith_right _ _ (by simp [length_claimAll])

end HostTelemetry.Sampler
