import HostTelemetry.Proofs.Sampler.Claiming
import HostTelemetry.Proofs.Snapshot.Identifiers
import HostTelemetry.Proofs.Text.Slug

namespace HostTelemetry

open Text (IsPlain isPlain_append slug_plain)

namespace Sampler

theorem repr_plain (n : Nat) : IsPlain (Nat.repr n) := by
  intro c hc
  rw [Nat.toList_repr] at hc
  simp [Text.isKeyChar, Nat.isDigit_of_mem_toDigits (by decide) (by decide) hc]

theorem candidate_plain {base : String} (h : IsPlain base) (n : Nat) :
    IsPlain (candidate base n) := by
  cases n with
  | zero => exact h
  | succ n => exact isPlain_append.mpr ⟨isPlain_append.mpr ⟨h, by decide⟩, repr_plain _⟩

theorem claim_plain {category : Category} {taken : List String} {base : String}
    (h : IsPlain base) : IsPlain (claim category taken base) := by
  unfold claim
  cases hfind : ((List.range (taken.length + 2)).map (candidate base)).find?
      (isFree category taken) with
  | none => exact h
  | some key =>
      obtain ⟨n, -, rfl⟩ := List.mem_map.mp (List.mem_of_find?_eq_some hfind)
      exact candidate_plain h n

theorem claimAll_plain {category : Category} {taken bases : List String}
    (h : ∀ base ∈ bases, IsPlain base) :
    ∀ key ∈ claimAll category taken bases, IsPlain key := by
  induction bases generalizing taken with
  | nil => intro key hk; cases hk
  | cons base rest ih =>
      obtain ⟨hbase, hrest⟩ := List.forall_mem_cons.mp h
      exact List.forall_mem_cons.mpr ⟨claim_plain hbase, ih hrest⟩

theorem diskStat?_plain {d : Reading.Disk} {stat : Snapshot.Disk} (h : diskStat? d = some stat) :
    IsPlain stat.key := by
  obtain ⟨source, -, hstat⟩ := Option.bind_eq_some_iff.mp h
  cases (Option.ite_none_left_eq_some.mp hstat).2
  exact slug_plain _

end Sampler

namespace Sensor

theorem extend_plain {path segment : String} (h : IsPlain path) (hs : IsPlain segment) :
    IsPlain (extend path segment) := by
  unfold extend
  split
  · exact hs
  · exact isPlain_append.mpr ⟨isPlain_append.mpr ⟨h, by decide⟩, hs⟩

-- The names on the way down a tree only ever come in as slugs.
mutual

theorem leaves_plain {path : String} (h : IsPlain path) :
    (v : Json) → ∀ leaf ∈ leaves path v, IsPlain leaf.1
  | .object fields => by
      rw [leaves]
      exact leavesOfFields_plain h fields
  | .null | .bool _ | .int _ | .float _ | .text _ | .list _ => by
      intro leaf hleaf
      simp only [leaves, List.mem_singleton] at hleaf
      exact hleaf ▸ h

theorem leavesOfFields_plain {path : String} (h : IsPlain path) :
    (fields : List (String × Json)) → ∀ leaf ∈ leavesOfFields path fields, IsPlain leaf.1
  | [] => by intro leaf hleaf; simp [leavesOfFields] at hleaf
  | (name, v) :: rest => by
      intro leaf hleaf
      rw [leavesOfFields, List.mem_append] at hleaf
      rcases hleaf with hfirst | hrest
      · exact leaves_plain (extend_plain h (slug_plain name)) v leaf hfirst
      · exact leavesOfFields_plain h rest leaf hrest

end

theorem flatten_plain (tree : Json) : ∀ key ∈ (flatten tree).keys, IsPlain key := by
  intro key hk
  obtain ⟨entry, he, rfl⟩ := List.mem_map.mp (Keyed.mem_keys_ofList.mp hk)
  obtain ⟨⟨path, leaf⟩, hleaf, hvalue⟩ := List.mem_filterMap.mp he
  obtain ⟨v, -, rfl⟩ := Option.map_eq_some_iff.mp hvalue
  have hempty : IsPlain "" := by decide
  exact isPlain_append.mpr ⟨by decide, leaves_plain hempty tree _ hleaf⟩

end Sensor

namespace Category

-- A key is a plain word that starts with a letter.
def IsKey (key : String) : Prop :=
  IsPlain key ∧ key.toList.head?.any Char.isLower = true

instance (key : String) : Decidable (IsKey key) :=
  inferInstanceAs (Decidable (_ ∧ _ = true))

theorem IsKey.append {lead rest : String} (hlead : IsKey lead) (hrest : IsPlain rest) :
    IsKey (lead ++ rest) := by
  obtain ⟨c, hc, hlower⟩ := (Option.any_eq_true _ _).mp hlead.2
  refine ⟨isPlain_append.mpr ⟨hlead.1, hrest⟩, (Option.any_eq_true _ _).mpr ⟨c, ?_, hlower⟩⟩
  rw [String.toList_append, List.head?_append, hc, Option.some_or]

-- A sensor's identifier begins like the keys of the other categories do.
theorem isKey_of_mem {category : Category} {id key : String} (hid : category.Identifies id)
    (hplain : IsPlain id) (hk : key ∈ category.entityKeys id) : IsKey key := by
  have hframed : ∀ {lead tail : String}, IsKey lead → IsPlain tail → IsKey (lead ++ id ++ tail) :=
    fun hlead htail => (hlead.append hplain).append htail
  cases category with
  | metric =>
      have hmetrics : ∀ metric ∈ metricKeys, IsKey metric := by decide
      exact List.mem_singleton.mp hk ▸ hmetrics id hid
  | sensor =>
      obtain ⟨path, rfl⟩ := hid
      rw [List.mem_singleton.mp hk]
      exact IsKey.append (by decide) (isPlain_append.mp hplain).2
  | container =>
      rcases List.mem_pair.mp hk with rfl | rfl <;> exact hframed (by decide) (by decide)
  | disk =>
      rcases List.mem_pair.mp hk with rfl | rfl <;> exact hframed (by decide) (by decide)

end Category

namespace Snapshot

theorem fallback_ids_plain (category : Category) : ∀ id ∈ fallback.ids category, IsPlain id := by
  cases category with
  | metric => change ∀ id ∈ metricKeys, IsPlain id; decide
  | container | disk | sensor => intro id hid; cases hid

theorem snapshotOf_ids_plain (r : Reading) (d : Sampler.Derived) (category : Category) :
    ∀ id ∈ (Sampler.snapshotOf r d).ids category, IsPlain id := by
  cases category with
  | metric => change ∀ id ∈ metricKeys, IsPlain id; decide
  | container =>
      change ∀ id ∈ (Sampler.containerStats r.containerStats).map (·.key), IsPlain id
      rw [Sampler.containerStats_keys]
      exact Sampler.claimAll_plain (List.forall_mem_map.mpr fun _ _ => slug_plain _)
  | disk =>
      change ∀ id ∈ (Sampler.diskStats r.diskStats).map (·.key), IsPlain id
      rw [Sampler.diskStats_keys]
      refine Sampler.claimAll_plain (List.forall_mem_map.mpr fun stat hstat => ?_)
      obtain ⟨d, -, hd⟩ := List.mem_filterMap.mp hstat
      exact Sampler.diskStat?_plain hd
  | sensor => exact Sensor.flatten_plain _

end Snapshot

end HostTelemetry
