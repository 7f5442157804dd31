import HostTelemetry.Keyed
import Mathlib.Data.List.Nodup
import Mathlib.Data.List.Perm.Basic
import Mathlib.Data.String.Basic

namespace HostTelemetry.Keyed

variable {α : Type}

theorem mem_of_mem_insert {key : String} {value : α} {entries : Keyed α} {entry : String × α}
    (h : entry ∈ entries.insert key value) : entry = (key, value) ∨ entry ∈ entries := by
  induction entries with
  | nil => simpa [insert] using h
  | cons first rest ih =>
      obtain ⟨k, v⟩ := first
      simp only [insert] at h
      split at h
      · simpa using h
      · split at h
        · rcases List.mem_cons.mp h with rfl | hr
          · exact .inl rfl
          · exact .inr (List.mem_cons_of_mem _ hr)
        · rcases List.mem_cons.mp h with rfl | hr
          · exact .inr List.mem_cons_self
          · exact (ih hr).imp_right (List.mem_cons_of_mem _)

theorem ascending_insert (key : String) (value : α) {entries : Keyed α}
    (h : Ascending entries) : Ascending (entries.insert key value) := by
  induction entries with
  | nil => exact List.pairwise_singleton _ _
  | cons first rest ih =>
      obtain ⟨k, v⟩ := first
      obtain ⟨hfirst, hrest⟩ := List.pairwise_cons.mp h
      simp only [insert]
      split
      · next hlt =>
          refine List.pairwise_cons.mpr ⟨fun entry hentry => ?_, h⟩
          rcases List.mem_cons.mp hentry with rfl | hr
          · exact hlt
          · exact lt_trans hlt (hfirst entry hr)
      · next hge =>
          split
          · next heq => subst heq; exact List.pairwise_cons.mpr ⟨hfirst, hrest⟩
          · next hne =>
              have hlt : k < key := lt_of_le_of_ne (not_lt.mp hge) (Ne.symm hne)
              refine List.pairwise_cons.mpr ⟨fun entry hentry => ?_, ih hrest⟩
              rcases mem_of_mem_insert hentry with rfl | hr
              · exact hlt
              · exact hfirst entry hr

theorem ascending_ofList (entries : List (String × α)) : Ascending (ofList entries) := by
  suffices h : ∀ acc : Keyed α, Ascending acc →
      Ascending (entries.foldl (fun acc entry => acc.insert entry.1 entry.2) acc) from
    h [] List.Pairwise.nil
  induction entries with
  | nil => exact fun _ hacc => hacc
  | cons entry rest ih => exact fun acc hacc => ih _ (ascending_insert entry.1 entry.2 hacc)

theorem insert_of_all_lt {key : String} {entries : Keyed α} (value : α)
    (h : ∀ entry ∈ entries, entry.1 < key) : entries.insert key value = entries ++ [(key, value)] := by
  induction entries with
  | nil => rfl
  | cons first rest ih =>
      obtain ⟨hfirst, hrest⟩ := List.forall_mem_cons.mp h
      rw [insert, if_neg (lt_asymm hfirst), if_neg (ne_of_gt hfirst), ih hrest, List.cons_append]

-- What is in order stays as it is.
theorem ofList_of_ascending {entries : List (String × α)} (h : Ascending entries) :
    ofList entries = entries := by
  suffices hfold : ∀ (rest : List (String × α)) (acc : Keyed α), Ascending (acc ++ rest) →
      rest.foldl (fun acc entry => acc.insert entry.1 entry.2) acc = acc ++ rest from
    hfold entries [] h
  intro rest
  induction rest with
  | nil => exact fun acc _ => (List.append_nil acc).symm
  | cons entry rest ih =>
      intro acc hacc
      have hlast : ∀ e ∈ acc, e.1 < entry.1 :=
        fun e he => (List.pairwise_append.mp hacc).2.2 e he entry List.mem_cons_self
      rw [List.foldl_cons, insert_of_all_lt entry.2 hlast, ih, List.append_assoc]
      · rfl
      · rwa [List.append_assoc]

theorem Ascending.nodup_keys {entries : Keyed α} (h : Ascending entries) : entries.keys.Nodup :=
  List.pairwise_map.mpr (h.imp ne_of_lt)

theorem find?_append (key : String) (first second : Keyed α) :
    find? key (first ++ second) = (find? key first).or (find? key second) := by
  induction first with
  | nil => rfl
  | cons entry rest ih =>
      obtain ⟨k, v⟩ := entry
      by_cases h : k = key <;> simp [find?, h, ih]

theorem find?_isSome_iff {key : String} {entries : Keyed α} :
    (find? key entries).isSome ↔ key ∈ entries.keys := by
  induction entries with
  | nil => simp [keys]
  | cons entry rest ih =>
      obtain ⟨k, v⟩ := entry
      by_cases h : k = key
      · simp [find?, keys, h]
      · simpa [find?, keys, h, Ne.symm h] using ih

theorem find?_eq_some_of_mem {key : String} {value : α} {entries : Keyed α}
    (hn : entries.keys.Nodup) (h : (key, value) ∈ entries) : find? key entries = some value := by
  induction entries with
  | nil => cases h
  | cons entry rest ih =>
      obtain ⟨k, v⟩ := entry
      obtain ⟨hk, hn⟩ := List.nodup_cons.mp hn
      rcases List.mem_cons.mp h with he | hr
      · cases he; simp [find?]
      · have hm : key ∈ rest.map Prod.fst := List.mem_map.mpr ⟨_, hr, rfl⟩
        have hne : k ≠ key := by rintro rfl; exact hk hm
        simpa [find?, hne] using ih hn hr

theorem mem_of_find? {key : String} {value : α} {entries : Keyed α}
    (h : find? key entries = some value) : (key, value) ∈ entries := by
  induction entries with
  | nil => cases h
  | cons entry rest ih =>
      obtain ⟨k, v⟩ := entry
      rw [find?] at h
      split at h
      · next hk => cases h; exact hk ▸ List.mem_cons_self
      · exact List.mem_cons_of_mem _ (ih h)

-- The last entry of a name is the one that is kept.
theorem find?_ofList (key : String) (entries : List (String × α)) :
    find? key (ofList entries) = find? key entries.reverse := by
  suffices h : ∀ acc : Keyed α,
      find? key (entries.foldl (fun acc entry => acc.insert entry.1 entry.2) acc) =
        (find? key entries.reverse).or (find? key acc) by
    simpa [ofList] using h []
  induction entries with
  | nil => intro acc; rfl
  | cons entry rest ih =>
      intro acc
      obtain ⟨k, v⟩ := entry
      rw [List.foldl_cons, ih, List.reverse_cons, find?_append, find?_insert, Option.or_assoc]
      by_cases h : k = key <;> simp [find?, h]

theorem find?_ofList_eq_some_iff {key : String} {value : α} {entries : List (String × α)} :
    find? key (ofList entries) = some value ↔
      ∃ before after, entries = before ++ (key, value) :: after ∧ key ∉ after.map Prod.fst := by
  have hnone : ∀ rest : List (String × α),
      find? key rest.reverse = none ↔ key ∉ rest.map Prod.fst := by
    intro rest
    rw [← Option.not_isSome_iff_eq_none, find?_isSome_iff]
    simp [keys]
  rw [find?_ofList]
  constructor
  · intro h
    induction entries with
    | nil => cases h
    | cons entry rest ih =>
        obtain ⟨k, v⟩ := entry
        rw [List.reverse_cons, find?_append] at h
        rcases Option.or_eq_some_iff.mp h with hrest | ⟨hrest, hfirst⟩
        · obtain ⟨before, after, rfl, hafter⟩ := ih hrest
          exact ⟨(k, v) :: before, after, rfl, hafter⟩
        · obtain ⟨rfl, rfl⟩ : k = key ∧ v = value := by simpa [find?] using hfirst
          exact ⟨[], rest, rfl, (hnone rest).mp hrest⟩
  · rintro ⟨before, after, rfl, hafter⟩
    rw [List.reverse_append, List.reverse_cons, find?_append, find?_append,
      (hnone after).mpr hafter]
    simp [find?]

theorem mem_keys_ofList {key : String} {entries : List (String × α)} :
    key ∈ (ofList entries).keys ↔ key ∈ entries.map Prod.fst := by
  rw [← find?_isSome_iff, find?_ofList, find?_isSome_iff]
  simp [keys]

theorem mem_of_mem_ofList {entries : List (String × α)} {entry : String × α}
    (h : entry ∈ ofList entries) : entry ∈ entries := by
  suffices hfold : ∀ (rest : List (String × α)) (acc : Keyed α),
      entry ∈ rest.foldl (fun acc entry => acc.insert entry.1 entry.2) acc →
        entry ∈ acc ∨ entry ∈ rest from
    (hfold entries [] h).resolve_left List.not_mem_nil
  intro rest
  induction rest with
  | nil => exact fun acc hacc => .inl hacc
  | cons first rest ih =>
      intro acc hmem
      rcases ih _ hmem with hacc | hrest
      · rcases mem_of_mem_insert hacc with rfl | hacc
        · exact .inr List.mem_cons_self
        · exact .inl hacc
      · exact .inr (List.mem_cons_of_mem _ hrest)

theorem keys_ofList_perm {entries : List (String × α)} (h : (entries.map Prod.fst).Nodup) :
    (ofList entries).keys.Perm (entries.map Prod.fst) :=
  (List.perm_ext_iff_of_nodup (ascending_ofList entries).nodup_keys h).mpr
    fun _ => mem_keys_ofList

theorem find?_ofList_of_mem {key : String} {value : α} {entries : List (String × α)}
    (hn : (entries.map Prod.fst).Nodup) (h : (key, value) ∈ entries) :
    find? key (ofList entries) = some value := by
  rw [find?_ofList]
  apply find?_eq_some_of_mem _ (List.mem_reverse.mpr h)
  simpa [keys] using hn

theorem find?_erase (key name : String) (entries : Keyed α) :
    find? name (entries.erase key) = if key = name then none else find? name entries := by
  induction entries with
  | nil => simp [erase]
  | cons entry rest ih =>
      obtain ⟨k, v⟩ := entry
      by_cases hk : k = key
      · have he : erase key ((k, v) :: rest) = erase key rest := by simp [erase, hk]
        rw [he, ih]
        by_cases h : key = name <;> simp [find?, hk, h]
      · have he : erase key ((k, v) :: rest) = (k, v) :: erase key rest := by simp [erase, hk]
        simp only [he, find?, ih]
        by_cases h : k = name
        · subst h; simp [Ne.symm hk]
        · simp [h]

theorem mem_keys_without {key : String} {names : List String} {entries : Keyed α} :
    key ∈ (entries.without names).keys ↔ key ∈ entries.keys ∧ key ∉ names := by
  simp only [keys, without, List.mem_map, List.mem_filter, decide_eq_true_eq]
  constructor
  · rintro ⟨entry, ⟨he, hn⟩, rfl⟩
    exact ⟨⟨entry, he, rfl⟩, hn⟩
  · rintro ⟨⟨entry, he, rfl⟩, hn⟩
    exact ⟨entry, ⟨he, hn⟩, rfl⟩

end HostTelemetry.Keyed
