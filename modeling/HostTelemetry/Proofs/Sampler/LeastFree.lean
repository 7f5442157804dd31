import HostTelemetry.Proofs.Sampler.Naming
import Mathlib.Algebra.Group.Nat.Defs
import Mathlib.Data.Finset.Card
import Mathlib.Data.Nat.Find

namespace HostTelemetry.Sampler

variable {category : Category} {base : String}

-- A key may be taken if no other entry has it and no metric is one of its value keys.
def Free (category : Category) (taken : Finset String) (id : String) : Prop :=
  id ∉ taken ∧ ¬Reserved category id

theorem isFree_iff_free {taken : List String} {id : String} :
    isFree category taken id ↔ Free category taken.toFinset id := by
  rw [isFree_iff, Free, List.mem_toFinset]

-- The candidate with the given number is the first free one.
def IsFirstFree (category : Category) (taken : Finset String) (base : String) (n : Nat) : Prop :=
  Free category taken (candidate base n) ∧ ∀ m < n, ¬Free category taken (candidate base m)

theorem IsFirstFree.unique {taken : Finset String} {m n : Nat}
    (hm : IsFirstFree category taken base m) (hn : IsFirstFree category taken base n) : m = n := by
  rcases Nat.lt_trichotomy m n with hlt | heq | hgt
  · exact absurd hm.1 (hn.2 m hlt)
  · exact heq
  · exact absurd hn.1 (hm.2 n hgt)

-- A name that is taken twice counts once.
theorem exists_isFirstFree (hc : ReservesAtMostOne category) (taken : Finset String)
    (base : String) : ∃ n < taken.card + 2, IsFirstFree category taken base n := by
  classical
  obtain ⟨n, hn, hfree⟩ := exists_isFree hc taken.toList base
  rw [Finset.length_toList] at hn
  rw [isFree_iff_free, Finset.toList_toFinset] at hfree
  have hexists : ∃ n, Free category taken (candidate base n) := ⟨n, hfree⟩
  refine ⟨Nat.find hexists, ?_, Nat.find_spec hexists, fun m hm => Nat.find_min hexists hm⟩
  exact lt_of_le_of_lt (Nat.find_min' hexists hfree) hn

theorem claim_of_isFirstFree {taken : List String} {n : Nat} (hn : n < taken.length + 2)
    (h : IsFirstFree category taken.toFinset base n) : claim category taken base = candidate base n := by
  have hfind : (List.range (taken.length + 2)).find? (isFree category taken ∘ candidate base) =
      some n := by
    rw [List.find?_range_eq_some]
    refine ⟨isFree_iff_free.mpr h.1, List.mem_range.mpr hn, fun m hm => ?_⟩
    have hused : ¬isFree category taken (candidate base m) := mt isFree_iff_free.mp (h.2 m hm)
    simpa using hused
  rw [claim, List.find?_map, hfind]
  rfl

theorem exists_claim_eq (hc : ReservesAtMostOne category) (taken : List String) (base : String) :
    ∃ n < taken.toFinset.card + 2, IsFirstFree category taken.toFinset base n ∧
      claim category taken base = candidate base n := by
  obtain ⟨n, hn, hfirst⟩ := exists_isFirstFree hc taken.toFinset base
  have hcard := taken.toFinset_card_le
  exact ⟨n, hn, hfirst, claim_of_isFirstFree (by omega) hfirst⟩

theorem claim_of_free {taken : List String} (h : Free category taken.toFinset base) :
    claim category taken base = base :=
  claim_of_isFirstFree (n := 0) (by omega) ⟨h, fun m hm => absurd hm (Nat.not_lt_zero m)⟩

-- Which keys are taken matters, and not in what order they were.
theorem claim_congr (hc : ReservesAtMostOne category) {taken others : List String}
    (h : ∀ id, id ∈ taken ↔ id ∈ others) : claim category taken base = claim category others base := by
  have hsame : taken.toFinset = others.toFinset := Finset.ext fun id => by simp [h id]
  obtain ⟨m, -, hm, hclaim⟩ := exists_claim_eq hc taken base
  obtain ⟨n, -, hn, hclaim'⟩ := exists_claim_eq hc others base
  rw [hclaim, hclaim', hm.unique (hsame ▸ hn)]

section Search

-- The search as it runs from the given candidate on: how many candidates it looks at, the
-- key that it ends with and the keys that are taken then. Of a candidate that is not
-- reserved it learns that it is taken by trying to add it.
inductive Search (category : Category) (base : String) :
    Nat → Finset String → Nat → String → Finset String → Prop where
  | reserved {n tried : Nat} {taken after : Finset String} {key : String} :
      Reserved category (candidate base n) →
      Search category base (n + 1) taken tried key after →
      Search category base n taken (tried + 1) key after
  | occupied {n tried : Nat} {taken after : Finset String} {key : String} :
      ¬Reserved category (candidate base n) → candidate base n ∈ taken →
      Search category base (n + 1) (insert (candidate base n) taken) tried key after →
      Search category base n taken (tried + 1) key after
  | found {n : Nat} {taken : Finset String} :
      ¬Reserved category (candidate base n) → candidate base n ∉ taken →
      Search category base n taken 1 (candidate base n) (insert (candidate base n) taken)

variable {n tried : Nat} {taken after : Finset String} {key : String}

-- A candidate that is passed over leaves the keys that are taken as they were.
theorem Search.passes (hused : ¬Free category taken (candidate base n))
    (h : Search category base (n + 1) taken tried key after) :
    Search category base n taken (tried + 1) key after := by
  by_cases hreserved : Reserved category (candidate base n)
  · exact .reserved hreserved h
  · have hmem : candidate base n ∈ taken := by
      by_contra hnot
      exact hused ⟨hnot, hreserved⟩
    exact .occupied hreserved hmem (by rwa [Finset.insert_eq_self.mpr hmem])

-- The induction is on the candidates that are passed over.
theorem search_of_free {count : Nat} (hfree : Free category taken (candidate base (n + count)))
    (hused : ∀ i < count, ¬Free category taken (candidate base (n + i))) :
    Search category base n taken (count + 1) (candidate base (n + count))
      (insert (candidate base (n + count)) taken) := by
  induction count generalizing n with
  | zero => exact .found hfree.2 hfree.1
  | succ count ih =>
      have hnext : n + (count + 1) = n + 1 + count := by omega
      rw [hnext] at hfree ⊢
      refine .passes (hused 0 (Nat.succ_pos count)) (ih hfree fun i hi => ?_)
      have := hused (i + 1) (by omega)
      rwa [show n + (i + 1) = n + 1 + i by omega] at this

theorem not_free_cons {count : Nat} (hused : ¬Free category taken (candidate base n))
    (hrest : ∀ i < count, ¬Free category taken (candidate base (n + 1 + i))) :
    ∀ i < count + 1, ¬Free category taken (candidate base (n + i)) := by
  intro i hi
  cases i with
  | zero => exact hused
  | succ i =>
      rw [show n + (i + 1) = n + 1 + i by omega]
      exact hrest i (by omega)

theorem Search.first (h : Search category base n taken tried key after) :
    ∃ count, tried = count + 1 ∧ key = candidate base (n + count) ∧ after = insert key taken ∧
      Free category taken (candidate base (n + count)) ∧
      ∀ i < count, ¬Free category taken (candidate base (n + i)) := by
  induction h with
  | @reserved n _ _ _ _ hreserved _ ih =>
      obtain ⟨count, rfl, hkey, hafter, hfree, hused⟩ := ih
      rw [show n + 1 + count = n + (count + 1) by omega] at hkey hfree
      exact ⟨count + 1, rfl, hkey, hafter, hfree, not_free_cons (fun h => h.2 hreserved) hused⟩
  | @occupied n _ _ _ _ _ hmem _ ih =>
      rw [Finset.insert_eq_self.mpr hmem] at ih
      obtain ⟨count, rfl, hkey, hafter, hfree, hused⟩ := ih
      rw [show n + 1 + count = n + (count + 1) by omega] at hkey hfree
      exact ⟨count + 1, rfl, hkey, hafter, hfree, not_free_cons (fun h => h.1 hmem) hused⟩
  | found hreserved hmem =>
      exact ⟨0, rfl, rfl, rfl, ⟨hmem, hreserved⟩, fun i hi => absurd hi (Nat.not_lt_zero i)⟩

-- The search always ends, and there is one way in which it can.
theorem search_iff (hfirst : IsFirstFree category taken base n) :
    Search category base 0 taken tried key after ↔
      tried = n + 1 ∧ key = candidate base n ∧ after = insert (candidate base n) taken := by
  constructor
  · intro h
    obtain ⟨count, htried, hkey, hafter, hfree, hused⟩ := h.first
    simp only [Nat.zero_add] at hkey hfree hused
    obtain rfl := IsFirstFree.unique ⟨hfree, hused⟩ hfirst
    exact ⟨htried, hkey, hkey ▸ hafter⟩
  · rintro ⟨rfl, rfl, rfl⟩
    have hsearch : Search category base 0 taken (n + 1) (candidate base (0 + n))
        (insert (candidate base (0 + n)) taken) :=
      search_of_free (by rw [Nat.zero_add]; exact hfirst.1) fun i hi => by
        rw [Nat.zero_add]; exact hfirst.2 i hi
    rwa [Nat.zero_add] at hsearch

end Search

section Lists

-- Every key is claimed beside those before it, so that those after it do not matter.
theorem claimAll_append (taken bases later : List String) :
    claimAll category taken (bases ++ later) =
      claimAll category taken bases ++
        claimAll category ((claimAll category taken bases).reverse ++ taken) later := by
  induction bases generalizing taken with
  | nil => rfl
  | cons base rest ih =>
      rw [List.cons_append, claimAll, ih, claimAll, List.reverse_cons, List.append_assoc]
      rfl

theorem claimAll_getElem? (hc : ReservesAtMostOne category) (taken bases : List String) (i : Nat) :
    (claimAll category taken bases)[i]? =
      (bases[i]?).map (claim category ((claimAll category taken bases).take i ++ taken)) := by
  induction bases generalizing taken i with
  | nil => rfl
  | cons base rest ih =>
      cases i with
      | zero => rfl
      | succ i =>
          rw [claimAll, List.getElem?_cons_succ, List.getElem?_cons_succ, List.take_succ_cons, ih]
          cases rest[i]? with
          | none => rfl
          | some next =>
              rw [Option.map_some, Option.map_some, Option.some_inj]
              exact claim_congr hc fun id => by simp; tauto

theorem claimAll_of_free (taken : List String) {bases : List String} (hnodup : bases.Nodup)
    (hfree : ∀ base ∈ bases, Free category taken.toFinset base) :
    claimAll category taken bases = bases := by
  induction bases generalizing taken with
  | nil => rfl
  | cons base rest ih =>
      obtain ⟨hbase, hrest⟩ := List.forall_mem_cons.mp hfree
      obtain ⟨hnew, hnodup⟩ := List.nodup_cons.mp hnodup
      rw [claimAll, claim_of_free hbase, ih (base :: taken) hnodup]
      intro other hother
      obtain ⟨hnot, hreserved⟩ := hrest other hother
      have hne : other ≠ base := fun h => hnew (h ▸ hother)
      exact ⟨by simpa [hne] using hnot, hreserved⟩

-- How the entries of a list come to their keys. `base?` is what the key of an entry is
-- taken from, if the entry can be used.
structure AssignsKeys {Entry : Type} (category : Category) (base? : Entry → Option String)
    (keys : List Entry → List String) : Prop where
  claimed : ∀ entries i, (keys entries)[i]? =
    ((entries.filterMap base?)[i]?).map (claim category ((keys entries).take i))
  distinct : ∀ entries, (keys entries).Nodup
  settled : ∀ entries later, keys entries <+: keys (entries ++ later)
  own : ∀ entries shuffled, shuffled.Perm entries → (entries.filterMap base?).Nodup →
    (∀ base ∈ entries.filterMap base?, ¬Reserved category base) →
    keys shuffled = shuffled.filterMap base?

theorem assignsKeys_of_claimAll {Entry : Type} {base? : Entry → Option String}
    {keys : List Entry → List String} (hc : ReservesAtMostOne category)
    (h : ∀ entries, keys entries = claimAll category [] (entries.filterMap base?)) :
    AssignsKeys category base? keys where
  claimed entries i := by
    rw [h, claimAll_getElem? hc, List.append_nil]
  distinct entries := by
    rw [h]
    exact nodup_claimAll hc _ _
  settled entries later := by
    rw [h, h, List.filterMap_append, claimAll_append]
    exact List.prefix_append _ _
  own entries shuffled hperm hnodup hfree := by
    have hbases := hperm.filterMap base?
    rw [h]
    refine claimAll_of_free [] (hbases.nodup_iff.mpr hnodup) fun base hbase => ⟨?_, ?_⟩
    · exact Finset.notMem_empty base
    · exact hfree base (hbases.mem_iff.mp hbase)

def containerBase? (c : Reading.Container) : Option String :=
  if Text.slug c.name ≠ "" then some (Text.slug c.name) else none

theorem usableContainers_bases (cs : List Reading.Container) :
    ((usableContainers cs).map fun c => Text.slug c.name) = cs.filterMap containerBase? := by
  rw [usableContainers, ← List.filterMap_eq_map, List.filterMap_filter]
  refine List.filterMap_congr fun c _ => ?_
  simp [containerBase?]

theorem containers_assignKeys :
    AssignsKeys .container containerBase? fun cs => (containerStats cs).map (·.key) :=
  assignsKeys_of_claimAll container_reservesAtMostOne fun cs => by
    rw [containerStats_keys, usableContainers_bases]

theorem disks_assignKeys :
    AssignsKeys .disk diskBase? fun ds => (diskStats ds).map (·.key) :=
  assignsKeys_of_claimAll disk_reservesAtMostOne fun ds => by
    rw [diskStats_keys, List.map_filterMap]
    exact congrArg (claimAll .disk []) (List.filterMap_congr fun d _ => diskStat?_key d)

end Lists

theorem reservesAtMostOne_of_listed (h : category = .container ∨ category = .disk) :
    ReservesAtMostOne category := by
  rcases h with rfl | rfl
  · exact container_reservesAtMostOne
  · exact disk_reservesAtMostOne

-- The name itself if it is free, and otherwise the name with the least number from two on
-- behind it that makes it so, found before the numbers run out of 31 bits. The keys of a
-- list therefore differ, stay as they are whatever comes after them, and are the names
-- themselves where those leave no doubt.
theorem claim_least_free :
    (∀ category taken base, category = .container ∨ category = .disk →
      taken.toFinset.card < 2 ^ 31 - 2 →
      (Free category taken.toFinset base → claim category taken base = base) ∧
      (¬Free category taken.toFinset base →
        ∃ n ≥ 2, claim category taken base = base ++ "_" ++ Nat.repr n ∧
          Free category taken.toFinset (base ++ "_" ++ Nat.repr n) ∧
          ∀ m ≥ 2, m < n → ¬Free category taken.toFinset (base ++ "_" ++ Nat.repr m)) ∧
      ∃ tried ≤ taken.toFinset.card + 2, tried < 2 ^ 31 ∧
        ∀ count key after, Search category base 0 taken.toFinset count key after ↔
          count = tried ∧ key = claim category taken base ∧
            after = insert (claim category taken base) taken.toFinset) ∧
    AssignsKeys .container containerBase? (fun cs => (containerStats cs).map (·.key)) ∧
    AssignsKeys .disk diskBase? (fun ds => (diskStats ds).map (·.key)) := by
  refine ⟨fun category taken base hcategory hfew => ?_, containers_assignKeys, disks_assignKeys⟩
  have hc := reservesAtMostOne_of_listed hcategory
  obtain ⟨n, hn, hfirst, hclaim⟩ := exists_claim_eq hc taken base
  refine ⟨claim_of_free, fun hused => ?_, n + 1, by omega, by omega, fun count key after => ?_⟩
  · cases n with
    | zero => exact absurd hfirst.1 hused
    | succ n =>
        refine ⟨n + 2, by omega, hclaim, hfirst.1, fun m hm hlt => ?_⟩
        obtain ⟨m, rfl⟩ := Nat.exists_eq_add_of_le' hm
        exact hfirst.2 (m + 1) (by omega)
  · rw [search_iff hfirst, hclaim]

-- The name of a metric is not free, nor is the next candidate, which another disk has.
theorem claim_least_free_capacity :
    claim .disk ["capacity_2"] "capacity" = "capacity_3" ∧
    Search .disk "capacity" 0 {"capacity_2"} 3 "capacity_3" {"capacity_3", "capacity_2"} ∧
    (containerStats [⟨"Web 2", none, none⟩, ⟨"Web", none, none⟩]).map (·.key) =
      ["web_2", "web"] := by
  obtain ⟨hkey, hcontainers, -⟩ := claim_least_free
  obtain ⟨-, hnumbered, tried, -, -, hsearch⟩ :=
    hkey .disk ["capacity_2"] "capacity" (.inr rfl) (by decide)
  have hreserved : Reserved .disk "capacity" := reserved_disk_iff.mpr rfl
  have htaken : ¬Free .disk ["capacity_2"].toFinset "capacity_2" := fun h => h.1 (by decide)
  have hfree : Free .disk ["capacity_2"].toFinset "capacity_3" :=
    isFree_iff_free.mp (by decide)
  have hclaim : claim .disk ["capacity_2"] "capacity" = "capacity_3" := by
    obtain ⟨n, hn, hclaim, hfirst, hleast⟩ := hnumbered fun h => h.2 hreserved
    rcases Nat.lt_trichotomy n 3 with hlt | rfl | hgt
    · obtain rfl : n = 2 := by omega
      exact absurd hfirst htaken
    · exact hclaim
    · exact absurd hfree (hleast 3 (by decide) hgt)
  refine ⟨hclaim, ?_, ?_⟩
  · have hrun : Search .disk "capacity" 0 {"capacity_2"} 3 "capacity_3"
        {"capacity_3", "capacity_2", "capacity_2"} :=
      .reserved hreserved (.occupied (fun h => absurd (reserved_disk_iff.mp h) (by decide))
        (by decide) (.found hfree.2 (by decide)))
    obtain ⟨rfl, -, -⟩ := (hsearch _ _ _).mp hrun
    exact (hsearch _ _ _).mpr ⟨rfl, hclaim.symm, by rw [hclaim]; rfl⟩
  · exact hcontainers.own [⟨"Web", none, none⟩, ⟨"Web 2", none, none⟩] _ (.swap _ _ _)
      (by decide) fun base _ => not_reserved_container base

end HostTelemetry.Sampler
