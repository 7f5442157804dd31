import HostTelemetry.Proofs.Keyed
import HostTelemetry.Store.Basic

namespace HostTelemetry.Store

theorem find?_putAll (records : Keyed Record) (rs : List Record) (name : String) :
    (putAll records rs).find? name =
      ((rs.filter (·.name = name)).getLast?).or (records.find? name) := by
  induction rs generalizing records with
  | nil => rfl
  | cons r rest ih =>
      rw [putAll, List.foldl_cons, ← putAll, ih, put, Keyed.find?_insert]
      by_cases h : r.name = name
      · simp only [h, decide_true, List.filter_cons_of_pos, if_true, List.getLast?_cons]
        cases (rest.filter (·.name = name)).getLast? <;> rfl
      · simp [h]

-- The last record of a name counts, and names that are not among the records
-- keep theirs.
theorem get?_update (s : Store) (rs : List Record) (name : String) :
    (s.update rs).get? name = ((rs.filter (·.name = name)).getLast?).or (s.get? name) :=
  find?_putAll s.records rs name

theorem get?_update_of_mem (store : Store) {rs : List Record}
    (hnames : (rs.map (·.name)).Nodup) {record : Record} (hmem : record ∈ rs) :
    (store.update rs).get? record.name = some record := by
  have hfound : record ∈ rs.filter (·.name = record.name) := by simpa using hmem
  obtain ⟨last, hlast⟩ := Option.isSome_iff_exists.mp
    (List.getLast?_isSome.mpr (List.ne_nil_of_mem hfound))
  obtain ⟨hin, hname⟩ := List.mem_filter.mp (List.mem_of_getLast? hlast)
  have hsame := List.inj_on_of_nodup_map hnames hin hmem (of_decide_eq_true hname)
  rw [get?_update, hlast, hsame, Option.some_or]

theorem get?_update_of_not_mem (store : Store) {rs : List Record} {name : String}
    (h : name ∉ rs.map (·.name)) : (store.update rs).get? name = store.get? name := by
  have hnone : rs.filter (·.name = name) = [] := by
    refine List.filter_eq_nil_iff.mpr fun record hmem hname => ?_
    exact h (List.mem_map.mpr ⟨record, hmem, of_decide_eq_true hname⟩)
  rw [get?_update, hnone, List.getLast?_nil, Option.none_or]

-- What every store holds by the way it is built: its records are in order, each by
-- its own name.
structure Sound (s : Store) : Prop where
  ascending : Keyed.Ascending s.records
  named : ∀ entry ∈ s.records, entry.2.name = entry.1

theorem putAll_named {records : Keyed Record} (h : ∀ entry ∈ records, entry.2.name = entry.1)
    (rs : List Record) : ∀ entry ∈ putAll records rs, entry.2.name = entry.1 := by
  induction rs generalizing records with
  | nil => exact h
  | cons r rest ih =>
      refine ih fun entry hentry => ?_
      rcases Keyed.mem_of_mem_insert hentry with rfl | hmem
      · rfl
      · exact h entry hmem

theorem putAll_ascending {records : Keyed Record} (h : Keyed.Ascending records)
    (rs : List Record) : Keyed.Ascending (putAll records rs) := by
  induction rs generalizing records with
  | nil => exact h
  | cons r rest ih => exact ih (Keyed.ascending_insert r.name r h)

theorem Sound.update {s : Store} (h : s.Sound) (rs : List Record) : (s.update rs).Sound :=
  ⟨putAll_ascending h.ascending rs, putAll_named h.named rs⟩

theorem mem_of_mem_putAll {records : Keyed Record} {rs : List Record} {entry : String × Record}
    (h : entry ∈ putAll records rs) : entry ∈ records ∨ entry.2 ∈ rs := by
  induction rs generalizing records with
  | nil => exact .inl h
  | cons r rest ih =>
      rcases ih h with hput | hrest
      · rcases Keyed.mem_of_mem_insert hput with rfl | hmem
        · exact .inr List.mem_cons_self
        · exact .inl hmem
      · exact .inr (List.mem_cons_of_mem _ hrest)

theorem mem_all_update {s : Store} {rs : List Record} {r : Record} (h : r ∈ (s.update rs).all) :
    r ∈ s.all ∨ r ∈ rs := by
  obtain ⟨entry, hentry, rfl⟩ := List.mem_map.mp h
  exact (mem_of_mem_putAll hentry).imp_left fun hmem => List.mem_map.mpr ⟨entry, hmem, rfl⟩

section Sound

variable {s : Store} (h : s.Sound)
include h

theorem Sound.all_ascending : s.all.Pairwise (·.name < ·.name) := by
  refine List.pairwise_map.mpr (h.ascending.imp_of_mem fun ha hb hlt => ?_)
  rw [h.named _ ha, h.named _ hb]
  exact hlt

theorem Sound.get?_eq_some_iff (name : String) (r : Record) :
    s.get? name = some r ↔ r ∈ s.all ∧ r.name = name := by
  constructor
  · intro hget
    have hentry := Keyed.mem_of_find? hget
    exact ⟨List.mem_map.mpr ⟨_, hentry, rfl⟩, h.named _ hentry⟩
  · rintro ⟨hr, rfl⟩
    obtain ⟨⟨name, r⟩, hentry, rfl⟩ := List.mem_map.mp hr
    have hname := h.named _ hentry
    exact Keyed.find?_eq_some_of_mem h.ascending.nodup_keys (hname ▸ hentry)

-- The records alone are enough to build the store again.
theorem Sound.putAll_all : putAll [] s.all = s.records := by
  have hentries : s.all.map (fun r => (r.name, r)) = s.records := by
    rw [all, List.map_map]
    refine (List.map_congr_left fun entry hentry => ?_).trans (List.map_id _)
    exact Prod.ext (h.named entry hentry) rfl
  calc putAll [] s.all = Keyed.ofList (s.all.map fun r => (r.name, r)) := by
        rw [Keyed.ofList, List.foldl_map]
        rfl
    _ = s.records := by rw [hentries, Keyed.ofList_of_ascending h.ascending]

end Sound

end HostTelemetry.Store
