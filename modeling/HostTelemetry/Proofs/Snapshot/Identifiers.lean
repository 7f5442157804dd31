import HostTelemetry.Proofs.Keyed
import HostTelemetry.Proofs.Sampler.Claiming
import HostTelemetry.Proofs.Sampler.Memory

namespace HostTelemetry.Snapshot

-- The identifiers of a category differ from each other, and each of them owns
-- its value keys.
structure WellKeyed (s : Snapshot) : Prop where
  nodup : ∀ category, (s.ids category).Nodup
  identifies : ∀ category, ∀ id ∈ s.ids category, category.Identifies id

-- The value keys behind everything that a sample shows in one category.
def entityKeys (s : Snapshot) (category : Category) : List String :=
  (s.ids category).flatMap category.entityKeys

theorem mem_entityKeys {s : Snapshot} {category : Category} {key : String} :
    key ∈ s.entityKeys category ↔ ∃ id ∈ s.ids category, key ∈ category.entityKeys id :=
  List.mem_flatMap

theorem WellKeyed.hasForm {s : Snapshot} (h : s.WellKeyed) {category : Category} {key : String}
    (hk : key ∈ s.entityKeys category) : category.HasForm key := by
  obtain ⟨id, hid, hk⟩ := mem_entityKeys.mp hk
  exact Category.hasForm_of_mem (h.identifies category id hid) hk

-- No two entities of a sample share a value key, in one category or across them.
theorem WellKeyed.nodup_entityKeys {s : Snapshot} (h : s.WellKeyed) :
    (Category.all.flatMap s.entityKeys).Nodup := by
  refine List.nodup_flatMap.mpr ⟨fun category _ => ?_, ?_⟩
  · exact Category.nodup_flatMap_entityKeys (h.nodup category)
  · have hall : Category.all.Nodup := by decide
    exact hall.imp fun hne _ hk hk' => hne ((h.hasForm hk).unique (h.hasForm hk'))

theorem metricKeys_nodup : metricKeys.Nodup := by decide

theorem fallback_wellKeyed : fallback.WellKeyed where
  nodup category := by
    cases category with
    | metric => exact metricKeys_nodup
    | container | disk | sensor => exact List.nodup_nil
  identifies category id hid := by
    cases category with
    | metric => exact hid
    | container | disk | sensor => cases hid

theorem snapshotOf_wellKeyed (r : Reading) (d : Sampler.Derived) :
    (Sampler.snapshotOf r d).WellKeyed where
  nodup category := by
    cases category with
    | metric => exact metricKeys_nodup
    | container =>
        change ((Sampler.containerStats r.containerStats).map (·.key)).Nodup
        rw [Sampler.containerStats_keys]
        exact Sampler.nodup_claimAll Sampler.container_reservesAtMostOne _ _
    | disk =>
        change ((Sampler.diskStats r.diskStats).map (·.key)).Nodup
        rw [Sampler.diskStats_keys]
        exact Sampler.nodup_claimAll Sampler.disk_reservesAtMostOne _ _
    | sensor => exact (Keyed.ascending_ofList _).nodup_keys
  identifies category id hid := by
    cases category with
    | metric => exact hid
    | container => trivial
    | disk =>
        change id ∈ (Sampler.diskStats r.diskStats).map (·.key) at hid
        rw [Sampler.diskStats_keys] at hid
        intro key hk hm
        exact (Sampler.claimAll_free Sampler.disk_reservesAtMostOne hid).2 ⟨key, hk, hm⟩
    | sensor =>
        obtain ⟨entry, he, rfl⟩ := List.mem_map.mp (Keyed.mem_keys_ofList.mp hid)
        obtain ⟨⟨path, leaf⟩, -, hleaf⟩ := List.mem_filterMap.mp he
        obtain ⟨v, -, rfl⟩ := Option.map_eq_some_iff.mp hleaf
        exact ⟨path, rfl⟩

theorem normalize_wellKeyed {s : Sampler} {host output : String} {now : Float}
    {snapshot : Snapshot} (h : (s.normalize host output now).1 = .ok snapshot) :
    snapshot.WellKeyed := by
  obtain ⟨r, -, rfl⟩ := Sampler.normalize_eq_ok_iff.mp h
  exact snapshotOf_wellKeyed r _

end HostTelemetry.Snapshot
