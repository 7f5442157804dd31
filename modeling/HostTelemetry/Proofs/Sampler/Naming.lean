import HostTelemetry.Proofs.Sampler.Claiming
import HostTelemetry.Proofs.Text.Runs

namespace HostTelemetry

namespace Sampler

-- A disk goes by its name or by its mount point.
def isNamed (d : Reading.Disk) : Bool :=
  d.name.getD "" ≠ "" || d.mount.getD "" ≠ ""

theorem zipWith_left {α β γ : Type} (f : α → γ) (items : List α) (keys : List β)
    (h : keys.length = items.length) : items.zipWith (fun item _ => f item) keys = items.map f := by
  rw [← List.map_uncurry_zip_eq_zipWith]
  have hfst : (items.zip keys).map Prod.fst = items := List.map_fst_zip h.ge
  conv_rhs => rw [← hfst, List.map_map]
  rfl

theorem usableContainers_eq (cs : List Reading.Container) :
    usableContainers cs = cs.filter (·.name ≠ "") := by
  simp only [usableContainers, ne_eq, Text.slug_eq_empty_iff]

-- Every container with a name is kept.
theorem containerStats_names (cs : List Reading.Container) :
    (containerStats cs).map (·.name) = (cs.map (·.name)).filter (· ≠ "") := by
  rw [containerStats, List.map_zipWith]
  have hkept := zipWith_left (fun c : Reading.Container => c.name) (usableContainers cs)
    (claimAll .container [] ((usableContainers cs).map fun c => Text.slug c.name))
    (by simp [length_claimAll])
  refine hkept.trans ?_
  rw [usableContainers_eq, List.filter_map]
  rfl

-- What the key of a disk is taken from: its name and its mount point if these differ, or
-- the only one of them that it has. A blank text is none.
def diskBase? (d : Reading.Disk) : Option String :=
  match d.name.filter (· ≠ ""), d.mount.filter (· ≠ "") with
  | some name, some mount =>
      some (Text.slug (if name = mount then name else name ++ "_" ++ mount))
  | some name, none => some (Text.slug name)
  | none, some mount => some (Text.slug mount)
  | none, none => none

@[elab_as_elim]
theorem text_cases {motive : Option String → Prop} (text : Option String) (none : motive none)
    (blank : motive (some "")) (named : ∀ t ≠ "", motive (some t)) : motive text := by
  cases text with
  | none => exact none
  | some t =>
      by_cases h : t = ""
      · exact h ▸ blank
      · exact named t h

theorem diskStat?_key (d : Reading.Disk) : (diskStat? d).map (·.key) = diskBase? d := by
  obtain ⟨name, mount, total, free⟩ := d
  cases name using text_cases with
  | none | blank =>
      cases mount using text_cases with
      | none | blank => rfl
      | named mount hmount =>
          simp [diskStat?, diskSource?, diskBase?, Option.filter, Text.isEmpty_slug, hmount]
  | named name hname =>
      cases mount using text_cases with
      | none | blank =>
          simp [diskStat?, diskSource?, diskBase?, Option.filter, Text.isEmpty_slug, hname]
      | named mount hmount =>
          by_cases hsame : name = mount
          · simp [diskStat?, diskSource?, diskBase?, Option.filter, Text.isEmpty_slug, hsame, hmount]
          · simp [diskStat?, diskSource?, diskBase?, Option.filter, Text.isEmpty_slug, hname,
              hmount, hsame]

example : diskBase? ⟨some "/dev/sda1", some "", none, none⟩ = some "_dev_sda1" := by decide

theorem diskStat?_isSome (d : Reading.Disk) : (diskStat? d).isSome = isNamed d := by
  rw [← Option.isSome_map, diskStat?_key]
  obtain ⟨name, mount, total, free⟩ := d
  cases name using text_cases with
  | none | blank =>
      cases mount using text_cases with
      | none | blank => rfl
      | named mount hmount => simp [diskBase?, isNamed, Option.filter, hmount]
  | named name hname =>
      cases mount using text_cases with
      | none | blank => simp [diskBase?, isNamed, Option.filter, hname]
      | named mount hmount => simp [diskBase?, isNamed, Option.filter, hname, hmount]

theorem diskStat?_names {d : Reading.Disk} {stat : Snapshot.Disk} (h : diskStat? d = some stat) :
    (stat.name, stat.mount) = ((d.name.filter (· ≠ "")).or d.mount, d.mount.filter (· ≠ "")) := by
  obtain ⟨source, -, hstat⟩ := Option.bind_eq_some_iff.mp h
  cases (Option.ite_none_left_eq_some.mp hstat).2
  rfl

-- Every disk with a name or a mount point is kept.
theorem diskStats_names (ds : List Reading.Disk) :
    (diskStats ds).map (fun stat => (stat.name, stat.mount)) =
      (ds.filter isNamed).map fun d =>
        ((d.name.filter (· ≠ "")).or d.mount, d.mount.filter (· ≠ "")) := by
  rw [diskStats, List.map_zipWith]
  have hkept := zipWith_left (fun stat : Snapshot.Disk => (stat.name, stat.mount))
    (ds.filterMap diskStat?)
    (claimAll .disk [] ((ds.filterMap diskStat?).map (·.key))) (by simp [length_claimAll])
  refine hkept.trans ?_
  rw [List.map_filterMap, ← List.filterMap_eq_map, List.filterMap_filter]
  refine List.filterMap_congr fun d _ => ?_
  cases hstat : diskStat? d with
  | none =>
      have hnot : isNamed d = false := by rw [← diskStat?_isSome, hstat]; rfl
      simp [hnot]
  | some stat =>
      have hnamed : isNamed d := by rw [← diskStat?_isSome, hstat]; rfl
      rw [if_pos hnamed]
      exact congrArg some (diskStat?_names hstat)

end Sampler

namespace Text

-- A slug is what a name comes to when each of its runs of other characters shrinks to one
-- underscore and its letters to lowercase. Making a slug twice changes nothing, nothing
-- but the empty name has an empty slug, and so no named thing is lost.
theorem slug_normal_form :
    (∀ c, isWordChar c ↔
      'A' ≤ c ∧ c ≤ 'Z' ∨ 'a' ≤ c ∧ c ≤ 'z' ∨ '0' ≤ c ∧ c ≤ '9' ∨ c = '_') ∧
    (∀ s, ∃ runs, (∀ cut, MaximalRuns s.toList cut ↔ cut = runs) ∧
      slug s = String.ofList (runs.flatMap spelled)) ∧
    (∀ s, slug (slug s) = slug s) ∧
    (∀ s, slug s = "" ↔ s = "") ∧
    (∀ cs, (Sampler.containerStats cs).map (·.name) = (cs.map (·.name)).filter (· ≠ "")) ∧
    (∀ ds, (Sampler.diskStats ds).map (fun stat => (stat.name, stat.mount)) =
      (ds.filter Sampler.isNamed).map fun d =>
        ((d.name.filter (· ≠ "")).or d.mount, d.mount.filter (· ≠ ""))) ∧
    ∀ s t, if endsReplaced s.toList && beginsReplaced t.toList then
        ∃ front back, slug s = front ++ "_" ∧ slug t = "_" ++ back ∧
          slug (s ++ t) = front ++ "_" ++ back
      else slug (s ++ t) = slug s ++ slug t := by
  refine ⟨fun _ => isWordChar_iff, fun s => ?_, fun s => slug_eq_self_iff.mpr (slug_plain s),
    fun _ => slug_eq_empty_iff, Sampler.containerStats_names, Sampler.diskStats_names,
    slug_append⟩
  have hruns : MaximalRuns s.toList (runsOf s.toList) := maximalRuns_iff.mpr rfl
  exact ⟨runsOf s.toList, fun _ => maximalRuns_iff, by rw [slug, hruns.slugChars_eq]⟩

example : slug "/dev/sda1 (/)" = "_dev_sda1_" := by decide

end Text

end HostTelemetry
