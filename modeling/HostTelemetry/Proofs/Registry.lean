import HostTelemetry.Registry
import Mathlib.Data.List.Nodup

namespace HostTelemetry.Registry

theorem isKnown_iff {r : Registry} {host id : String} {category : Category} :
    r.isKnown host category id ↔ ⟨host, category, id⟩ ∈ r :=
  List.contains_iff_mem

theorem isKnown_record {r : Registry} {host other id : String} {category category' : Category}
    {ids : List String} :
    (r.record host category ids).isKnown other category' id ↔
      r.isKnown other category' id ∨ host = other ∧ category = category' ∧ id ∈ ids := by
  simp only [isKnown_iff, record, List.mem_append, List.mem_map, Announced.mk.injEq]
  constructor
  · rintro (hr | ⟨_, hid, rfl, rfl, rfl⟩)
    · exact .inl hr
    · exact .inr ⟨rfl, rfl, hid⟩
  · rintro (hr | ⟨rfl, rfl, hid⟩)
    · exact .inl hr
    · exact .inr ⟨id, hid, rfl, rfl, rfl⟩

-- The search with some identifiers already found.
def peekFrom (r : Registry) (host : String) (category : Category)
    (fresh observed : List String) : List String :=
  observed.foldl (fun fresh id =>
    if r.isKnown host category id || fresh.contains id then fresh else fresh ++ [id]) fresh

theorem peekFrom_cons (r : Registry) (host : String) (category : Category)
    (fresh : List String) (id : String) (rest : List String) :
    r.peekFrom host category fresh (id :: rest) =
      if r.isKnown host category id ∨ id ∈ fresh then r.peekFrom host category fresh rest
      else r.peekFrom host category (fresh ++ [id]) rest := by
  simp only [peekFrom, List.foldl_cons, Bool.or_eq_true, List.contains_iff_mem]
  split <;> rfl

theorem mem_peekFrom {r : Registry} {host id : String} {category : Category}
    {fresh observed : List String} :
    id ∈ r.peekFrom host category fresh observed ↔
      id ∈ fresh ∨ id ∈ observed ∧ ¬r.isKnown host category id := by
  induction observed generalizing fresh with
  | nil => simp [peekFrom]
  | cons next rest ih =>
      rw [peekFrom_cons]
      by_cases he : id = next
      · subst he
        split
        · next h => rw [ih]; rcases h with h | h <;> simp [h]
        · next h => rw [ih]; simp [not_or.mp h]
      · split <;> rw [ih] <;> simp [he]

theorem mem_peek {r : Registry} {host id : String} {category : Category}
    {observed : List String} :
    id ∈ r.peek host category observed ↔ id ∈ observed ∧ ¬r.isKnown host category id := by
  change id ∈ r.peekFrom host category [] observed ↔ _
  rw [mem_peekFrom]
  simp

theorem nodup_peekFrom (r : Registry) (host : String) (category : Category)
    {fresh : List String} (hfresh : fresh.Nodup) (observed : List String) :
    (r.peekFrom host category fresh observed).Nodup := by
  induction observed generalizing fresh with
  | nil => exact hfresh
  | cons next rest ih =>
      rw [peekFrom_cons]
      split
      · exact ih hfresh
      · next hnew =>
          have hconcat := hfresh.concat (not_or.mp hnew).2
          rw [List.concat_eq_append] at hconcat
          exact ih hconcat

theorem nodup_peek (r : Registry) (host : String) (category : Category)
    (observed : List String) : (r.peek host category observed).Nodup :=
  r.nodup_peekFrom host category List.nodup_nil observed

-- What has been found already might as well have been recorded before the search.
theorem peekFrom_append_fresh (r : Registry) (host : String) (category : Category)
    (fresh found observed : List String) :
    r.peekFrom host category (fresh ++ found) observed =
      fresh ++ (r.record host category fresh).peekFrom host category found observed := by
  induction observed generalizing found with
  | nil => rfl
  | cons next rest ih =>
      have hseen : (r.isKnown host category next ∨ next ∈ fresh ++ found) ↔
          (r.record host category fresh).isKnown host category next ∨ next ∈ found := by
        simp only [isKnown_record, true_and, List.mem_append, or_assoc]
      rw [peekFrom_cons, peekFrom_cons]
      by_cases hnext : r.isKnown host category next ∨ next ∈ fresh ++ found
      · rw [if_pos hnext, if_pos (hseen.mp hnext), ih]
      · rw [if_neg hnext, if_neg (mt hseen.mpr hnext), List.append_assoc, ih]

theorem peek_append (r : Registry) (host : String) (category : Category)
    (first second : List String) :
    r.peek host category (first ++ second) = r.peek host category first ++
      (r.record host category (r.peek host category first)).peek host category second := by
  have hsplit : r.peek host category (first ++ second) =
      r.peekFrom host category (r.peek host category first ++ []) second := by
    rw [List.append_nil]
    exact List.foldl_append
  rw [hsplit, peekFrom_append_fresh]
  rfl

theorem record_append (r : Registry) (host : String) (category : Category)
    (first second : List String) :
    r.record host category (first ++ second) =
      (r.record host category first).record host category second := by
  simp only [record, List.map_append, List.append_assoc]

-- A list of observations may be handed over in parts.
theorem announce_append (r : Registry) (host : String) (category : Category)
    (first second : List String) :
    let one := r.announce host category first
    let two := one.2.announce host category second
    r.announce host category (first ++ second) = (one.1 ++ two.1, two.2) := by
  simp only [announce, peek_append, record_append]

theorem isKnown_announce {r : Registry} {host other id : String} {category category' : Category}
    {observed : List String} :
    (r.announce host category observed).2.isKnown other category' id ↔
      r.isKnown other category' id ∨ host = other ∧ category = category' ∧ id ∈ observed := by
  rw [announce, isKnown_record, mem_peek]
  constructor
  · rintro (hr | ⟨rfl, rfl, hid, -⟩)
    · exact .inl hr
    · exact .inr ⟨rfl, rfl, hid⟩
  · rintro (hr | ⟨rfl, rfl, hid⟩)
    · exact .inl hr
    · by_cases hr : r.isKnown host category id
      · exact .inl hr
      · exact .inr ⟨rfl, rfl, hid, hr⟩

theorem peek_congr {r r' : Registry} {host : String} {category : Category}
    (h : ∀ id, r.isKnown host category id = r'.isKnown host category id)
    (observed : List String) :
    r.peek host category observed = r'.peek host category observed := by
  simp only [peek, h]

-- A host's part of the registry decides what is new for it.
theorem isKnown_filter (r : Registry) (host : String) (category : Category) (id : String) :
    isKnown (r.filter (·.host = host)) host category id = r.isKnown host category id := by
  rw [Bool.eq_iff_iff, isKnown_iff, isKnown_iff, List.mem_filter]
  simp

theorem peek_filter (r : Registry) (host : String) (category : Category)
    (observed : List String) :
    peek (r.filter (·.host = host)) host category observed = r.peek host category observed :=
  peek_congr (isKnown_filter r host category) observed

theorem filter_record (r : Registry) (host other : String) (category : Category)
    (ids : List String) :
    (r.record host category ids).filter (·.host = other) =
      if host = other then record (r.filter (·.host = other)) host category ids
      else r.filter (·.host = other) := by
  rw [record, List.filter_append]
  split
  · next h =>
      rw [record]
      congr 1
      simp [h]
  · next h => simp [h]

end HostTelemetry.Registry
