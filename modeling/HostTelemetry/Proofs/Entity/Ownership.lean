import HostTelemetry.Entity
import HostTelemetry.Sensor
import Mathlib.Data.List.Nodup
import Mathlib.Data.List.Infix

namespace HostTelemetry.Category

-- What an identifier has to be for its value keys to be its own. A disk must not
-- be called so that one of its keys is a metric.
def Identifies : Category → String → Prop
  | metric, id => id ∈ metricKeys
  | container, _ => True
  | disk, id => ∀ key ∈ disk.entityKeys id, key ∉ metricKeys
  | sensor, id => ∃ path, id = Sensor.key path

-- The form of a value key. It tells the category, whatever the identifier is.
def HasForm (key : String) : Category → Prop
  | metric => key ∈ metricKeys
  | container => key ∉ metricKeys ∧ "container_".toList <+: key.toList ∧
      ("_cpu".toList <:+ key.toList ∨ "_mem".toList <:+ key.toList)
  | disk => key ∉ metricKeys ∧ "disk_".toList <+: key.toList ∧
      ("_total".toList <:+ key.toList ∨ "_free".toList <:+ key.toList)
  | sensor => key ∉ metricKeys ∧ "sensor_".toList <+: key.toList

instance (key : String) : (category : Category) → Decidable (HasForm key category)
  | metric => inferInstanceAs (Decidable (key ∈ metricKeys))
  | container => inferInstanceAs (Decidable (_ ∧ _ ∧ (_ ∨ _)))
  | disk => inferInstanceAs (Decidable (_ ∧ _ ∧ (_ ∨ _)))
  | sensor => inferInstanceAs (Decidable (_ ∧ _))

theorem not_mem_metricKeys_of_lead {lead key : String}
    (hlead : ∀ metric ∈ metricKeys, ¬lead.toList <+: metric.toList)
    (hkey : lead.toList <+: key.toList) : key ∉ metricKeys :=
  fun hm => hlead key hm hkey

theorem lead_framed (lead id tail : String) : lead.toList <+: (lead ++ id ++ tail).toList := by
  simp only [String.toList_append, List.append_assoc]
  exact List.prefix_append _ _

theorem tail_framed (lead id tail : String) : tail.toList <:+ (lead ++ id ++ tail).toList := by
  simp only [String.toList_append]
  exact List.suffix_append _ _

-- How the two keys of a container or of a disk begin and end.
theorem framed_of_mem {lead tail tail' id key : String}
    (hk : key ∈ [lead ++ id ++ tail, lead ++ id ++ tail']) :
    lead.toList <+: key.toList ∧ (tail.toList <:+ key.toList ∨ tail'.toList <:+ key.toList) := by
  rcases List.mem_pair.mp hk with rfl | rfl
  · exact ⟨lead_framed _ _ _, .inl (tail_framed _ _ _)⟩
  · exact ⟨lead_framed _ _ _, .inr (tail_framed _ _ _)⟩

theorem hasForm_of_mem {category : Category} {id key : String} (hid : category.Identifies id)
    (hk : key ∈ category.entityKeys id) : category.HasForm key := by
  cases category with
  | metric => simp only [entityKeys, List.mem_singleton] at hk; exact hk ▸ hid
  | container =>
      have hframe := framed_of_mem hk
      exact ⟨not_mem_metricKeys_of_lead (by decide) hframe.1, hframe⟩
  | disk => exact ⟨hid key hk, framed_of_mem hk⟩
  | sensor =>
      obtain ⟨path, rfl⟩ := hid
      simp only [entityKeys, List.mem_singleton] at hk
      have hlead : "sensor_".toList <+: key.toList := by
        rw [hk, Sensor.key, String.toList_append]
        exact List.prefix_append _ _
      exact ⟨not_mem_metricKeys_of_lead (by decide) hlead, hlead⟩

theorem leads_conflict {first second : String} {key : String}
    (hfirst : first.toList <+: key.toList) (hsecond : second.toList <+: key.toList)
    (hne : ¬first.toList <+: second.toList ∧ ¬second.toList <+: first.toList) : False :=
  (List.prefix_or_prefix_of_prefix hfirst hsecond).elim hne.1 hne.2

theorem HasForm.unique {key : String} {category other : Category} (h : category.HasForm key)
    (h' : other.HasForm key) : category = other := by
  cases category with
  | metric =>
      cases other with
      | metric => rfl
      | container | disk | sensor => exact absurd h h'.1
  | container =>
      cases other with
      | metric => exact absurd h' h.1
      | container => rfl
      | disk => exact (leads_conflict h.2.1 h'.2.1 (by decide)).elim
      | sensor => exact (leads_conflict h.2.1 h'.2 (by decide)).elim
  | disk =>
      cases other with
      | metric => exact absurd h' h.1
      | container => exact (leads_conflict h.2.1 h'.2.1 (by decide)).elim
      | disk => rfl
      | sensor => exact (leads_conflict h.2.1 h'.2 (by decide)).elim
  | sensor =>
      cases other with
      | metric => exact absurd h' h.1
      | container => exact (leads_conflict h.2 h'.2.1 (by decide)).elim
      | disk => exact (leads_conflict h.2 h'.2.1 (by decide)).elim
      | sensor => rfl

theorem framed_ne {lead first second tail tail' : String}
    (htail : ¬tail.toList <:+ tail'.toList ∧ ¬tail'.toList <:+ tail.toList) :
    lead ++ first ++ tail ≠ lead ++ second ++ tail' := by
  intro h
  have hs : tail.toList <:+ (lead ++ second ++ tail').toList := h ▸ tail_framed lead first tail
  exact (List.suffix_or_suffix_of_suffix hs (tail_framed lead second tail')).elim htail.1 htail.2

-- Within a category the identifier can be read off a value key.
theorem id_eq_of_mem {category : Category} {id id' key : String}
    (hk : key ∈ category.entityKeys id) (hk' : key ∈ category.entityKeys id') : id = id' := by
  cases category with
  | metric | sensor =>
      simp only [entityKeys, List.mem_singleton] at hk hk'
      exact hk.symm.trans hk'
  | container | disk =>
      simp only [entityKeys, List.mem_cons, List.not_mem_nil, or_false] at hk hk'
      rcases hk with rfl | rfl <;> rcases hk' with hk' | hk'
      · simpa using hk'
      · exact absurd hk' (framed_ne (by decide))
      · exact absurd hk' (framed_ne (by decide))
      · simpa using hk'

theorem owner_unique {category other : Category} {id id' key : String}
    (hid : category.Identifies id) (hid' : other.Identifies id')
    (hk : key ∈ category.entityKeys id) (hk' : key ∈ other.entityKeys id') :
    category = other ∧ id = id' := by
  obtain rfl := (hasForm_of_mem hid hk).unique (hasForm_of_mem hid' hk')
  exact ⟨rfl, id_eq_of_mem hk hk'⟩

theorem nodup_entityKeys (category : Category) (id : String) : (category.entityKeys id).Nodup := by
  cases category with
  | metric | sensor => simp [entityKeys]
  | container | disk =>
      simp only [entityKeys, List.nodup_cons, List.mem_singleton, List.not_mem_nil,
        not_false_eq_true, List.nodup_nil, and_true]
      exact framed_ne (by decide)

-- The keys of different identifiers of one category never meet.
theorem nodup_flatMap_entityKeys {category : Category} {ids : List String} (h : ids.Nodup) :
    (ids.flatMap category.entityKeys).Nodup := by
  refine List.nodup_flatMap.mpr ⟨fun id _ => category.nodup_entityKeys id, ?_⟩
  refine h.imp fun hne => ?_
  exact fun key hk hk' => hne (id_eq_of_mem hk hk')

end HostTelemetry.Category
