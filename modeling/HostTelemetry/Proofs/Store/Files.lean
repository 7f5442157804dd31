import HostTelemetry.Store.Files
import Mathlib.Data.List.Infix

namespace HostTelemetry.Files

section Entries

theorem entry?_remove (files : Files) (path other : List String) :
    Files.entry? (files.remove path) other = if path = other then none else files.entry? other := by
  unfold remove entry?
  rw [List.find?_filter]
  split
  · next h =>
      subst h
      simp
  · next h =>
      congr 2
      funext e
      by_cases he : e.1 = other
      · simp [he, Ne.symm h]
      · simp [he]

theorem entry?_put (files : Files) (path other : List String) (entry : Entry) :
    Files.entry? (files.put path entry) other =
      if path = other then some entry else files.entry? other := by
  have hlast : Files.entry? (files.put path entry) other =
      (Files.entry? (files.remove path) other).or (if path = other then some entry else none) := by
    unfold put entry?
    rw [List.find?_append, Option.map_or]
    by_cases h : path = other <;> simp [h]
  rw [hlast, entry?_remove]
  split <;> simp

theorem entry?_addFolders (files : Files) (folders : List (List String)) (path : List String) :
    Files.entry? (files.addFolders folders) path =
      if path ∈ folders then some .folder else files.entry? path := by
  induction folders generalizing files with
  | nil => simp [addFolders]
  | cons folder rest ih =>
      rw [addFolders, List.foldl_cons, ← addFolders, ih, entry?_put]
      by_cases h : path ∈ rest
      · simp [h]
      · by_cases h' : folder = path
        · simp [h, h']
        · simp [h, h', Ne.symm h']

theorem length_le_of_mem_ancestors {folder path : List String} (h : path ∈ ancestors folder) :
    path.length ≤ folder.length := by
  obtain ⟨n, -, rfl⟩ := List.mem_map.mp h
  exact List.length_take_le' _ _

-- Nothing in a folder is one of the folders that it is in.
theorem full_not_mem_ancestors {p q : Path} (h : q.folder = p.folder) :
    q.full ∉ ancestors p.folder := by
  intro hmem
  have hlength := length_le_of_mem_ancestors hmem
  simp only [Path.full, h, List.length_append, List.length_singleton] at hlength
  omega

end Entries

namespace Path

theorem stem_cases (name : String) :
    stem name = name ∨
      ∃ ending, '.' ∉ ending ∧ name.toList = (stem name).toList ++ '.' :: ending := by
  unfold stem
  dsimp only
  cases hdrop : name.toList.reverse.dropWhile (· ≠ '.') with
  | nil => exact .inl rfl
  | cons c rest =>
      have hdot : c = '.' := by
        have hhead := List.head?_dropWhile_not (· ≠ '.') name.toList.reverse
        rw [hdrop] at hhead
        simpa using hhead
      subst hdot
      cases rest with
      | nil => exact .inl rfl
      | cons b before =>
          refine .inr ⟨(name.toList.reverse.takeWhile (· ≠ '.')).reverse, ?_, ?_⟩
          · intro hmem
            have htake := List.all_takeWhile (p := (· ≠ '.')) (l := name.toList.reverse)
            simpa using List.all_eq_true.mp htake '.' (List.mem_reverse.mp hmem)
          · have hsplit := List.takeWhile_append_dropWhile (p := (· ≠ '.'))
              (l := name.toList.reverse)
            rw [hdrop] at hsplit
            change name.toList = (String.ofList (b :: before).reverse).toList ++ '.' :: _
            rw [String.toList_ofList, ← List.reverse_inj, List.reverse_append, List.reverse_cons,
              List.reverse_reverse, List.reverse_reverse, List.append_assoc]
            exact hsplit.symm

-- What replaces the ending has a dot of its own, and an ending has none.
theorem stem_append_ne (name : String) : stem name ++ ".json.tmp" ≠ name := by
  intro h
  rcases stem_cases name with hsame | ⟨ending, hnone, hname⟩
  · have hlength := congrArg (fun s => s.toList.length) h
    simp [hsame] at hlength
  · have htail : ".json.tmp".toList = '.' :: "json.tmp".toList := by decide
    have hboth := congrArg String.toList h
    rw [String.toList_append, hname, htail] at hboth
    obtain rfl : "json.tmp".toList = ending := (List.cons.inj (List.append_cancel_left hboth)).2
    exact hnone (by decide)

theorem temporary_full_ne (p : Path) : p.temporary.full ≠ p.full := by
  intro h
  have hname := (List.append_inj' h rfl).2
  exact stem_append_ne p.name (List.singleton_inj.mp hname)

end Path

theorem findSome?_congr {α β : Type} {f g : α → Option β} {xs : List α}
    (h : ∀ x ∈ xs, f x = g x) : xs.findSome? f = xs.findSome? g := by
  induction xs with
  | nil => rfl
  | cons x rest ih =>
      obtain ⟨hx, hrest⟩ := List.forall_mem_cons.mp h
      rw [List.findSome?_cons, List.findSome?_cons, hx, ih hrest]

section Folders

variable {files : Files} {folder : List String}

theorem folderFault?_eq_none_iff :
    files.folderFault? folder = none ↔
      ∀ path ∈ ancestors folder, files.entry? path = some .folder := by
  rw [folderFault?, List.findSome?_eq_none_iff]
  refine forall₂_congr fun path _ => ?_
  split <;> simp_all

theorem folderFault?_eq_missing (hfiles : ∀ path ∈ ancestors folder, files.isFile path = false)
    {fault : Fault} (h : files.folderFault? folder = some fault) : fault = .missing := by
  obtain ⟨path, hpath, he⟩ := List.exists_of_findSome?_eq_some h
  have hfile := hfiles path hpath
  unfold isFile at hfile
  split at he
  · exact (Option.some.inj he).symm
  · next bytes hentry => rw [hentry] at hfile; cases hfile
  · cases he

theorem folderFault?_congr {after : Files}
    (h : ∀ path ∈ ancestors folder, after.entry? path = files.entry? path) :
    after.folderFault? folder = files.folderFault? folder :=
  findSome?_congr fun path hpath => by rw [h path hpath]

end Folders

-- Whatever there is stands in folders.
def Rooted (files : Files) : Prop :=
  ∀ e ∈ files, files.folderFault? e.1.dropLast = none

instance (files : Files) : Decidable files.Rooted :=
  inferInstanceAs (Decidable (∀ e ∈ files, files.folderFault? e.1.dropLast = none))

theorem Rooted.folderFault?_eq_none {files : Files} (h : files.Rooted) {p : Path}
    (hp : files.entry? p.full ≠ none) : files.folderFault? p.folder = none := by
  obtain ⟨e, he⟩ := Option.ne_none_iff_exists'.mp hp
  obtain ⟨found, hfound, -⟩ := Option.map_eq_some_iff.mp he
  have hkey : found.1 = p.full := by simpa using List.find?_some hfound
  have hfolders := h found (List.mem_of_find?_eq_some hfound)
  rwa [hkey, Path.full, List.dropLast_concat] at hfolders

-- What becomes of the files around a path while something else is written: its own
-- entry stays, and at most some of the folders above it are made.
structure Spared (p : Path) (files after : Files) : Prop where
  entry : after.entry? p.full = files.entry? p.full
  folders : ∀ path ∈ ancestors p.folder, after.entry? path = files.entry? path ∨
    files.entry? path = none ∧ after.entry? path = some .folder ∧
      ∀ other ∈ ancestors p.folder, files.isFile other = false

namespace Spared

variable {p : Path} {files mid after : Files}

theorem refl (p : Path) (files : Files) : Spared p files files :=
  ⟨rfl, fun _ _ => .inl rfl⟩

theorem isFile_eq (h : Spared p files after) {path : List String} (hpath : path ∈ ancestors p.folder) :
    after.isFile path = files.isFile path := by
  unfold isFile
  rcases h.folders path hpath with he | ⟨hnone, hfolder, -⟩
  · rw [he]
  · rw [hnone, hfolder]

theorem trans (h : Spared p files mid) (h' : Spared p mid after) : Spared p files after where
  entry := h'.entry.trans h.entry
  folders path hpath := by
    rcases h'.folders path hpath with he' | ⟨hnone', hfolder', hfiles'⟩
    · rw [he']
      exact h.folders path hpath
    · rcases h.folders path hpath with he | ⟨-, hfolder, -⟩
      · exact .inr ⟨he ▸ hnone', hfolder', fun other hother =>
          h.isFile_eq hother ▸ hfiles' other hother⟩
      · rw [hfolder] at hnone'
        cases hnone'

theorem read_eq (h : Spared p files after) (hrooted : files.Rooted) :
    after.read p = files.read p := by
  by_cases hfiles : ∀ path ∈ ancestors p.folder, files.isFile path = false
  · cases hfault : files.folderFault? p.folder with
    | none =>
        have hfolders := folderFault?_eq_none_iff.mp hfault
        have hsame : after.folderFault? p.folder = files.folderFault? p.folder :=
          folderFault?_congr fun path hpath => (h.folders path hpath).resolve_right
            fun hmade => by rw [hfolders path hpath] at hmade; cases hmade.1
        rw [read, read, hsame, h.entry]
    | some fault =>
        have hnone : files.entry? p.full = none := by
          by_contra hsome
          rw [hrooted.folderFault?_eq_none hsome] at hfault
          cases hfault
        rw [read, read, hfault, h.entry, hnone, folderFault?_eq_missing hfiles hfault]
        cases hafter : after.folderFault? p.folder with
        | none => rfl
        | some fault' =>
            have hfiles' : ∀ path ∈ ancestors p.folder, after.isFile path = false :=
              fun path hpath => h.isFile_eq hpath ▸ hfiles path hpath
            rw [folderFault?_eq_missing hfiles' hafter]
  · have hsame : after.folderFault? p.folder = files.folderFault? p.folder :=
      folderFault?_congr fun path hpath => (h.folders path hpath).resolve_right
        fun hmade => hfiles hmade.2.2
    rw [read, read, hsame, h.entry]

end Spared

-- Steps that write something else than a path, in its folder.
def Step.Beside (p : Path) : Step → Prop
  | .makeFolders folder => folder = p.folder
  | .write path _ => path.folder = p.folder ∧ path.full ≠ p.full
  | .rename .. => False

theorem spared_addFolders {p : Path} {files : Files} {folders : List (List String)}
    (hfiles : (ancestors p.folder).any files.isFile = false)
    (h : ∀ path ∈ folders, path ∈ files.missingFolders p.folder) :
    Spared p files (files.addFolders folders) where
  entry := by
    rw [entry?_addFolders, if_neg]
    intro hmem
    exact full_not_mem_ancestors rfl (List.mem_filter.mp (h _ hmem)).1
  folders path hpath := by
    rw [entry?_addFolders]
    split
    · next hmem =>
        have hnone := (List.mem_filter.mp (h path hmem)).2
        exact .inr ⟨Option.isNone_iff_eq_none.mp hnone, rfl, fun other hother => by
          simpa using List.any_eq_false.mp hfiles other hother⟩
    · exact .inl rfl

theorem spared_put {p q : Path} {files : Files} (hfolder : q.folder = p.folder)
    (hne : q.full ≠ p.full) (entry : Entry) : Spared p files (files.put q.full entry) where
  entry := by rw [entry?_put, if_neg hne]
  folders path hpath := by
    rw [entry?_put, if_neg]
    · exact .inl rfl
    · rintro rfl
      exact full_not_mem_ancestors hfolder hpath

theorem Step.Beside.run_spared {p : Path} {step : Step} (h : step.Beside p) {files after : Files}
    (hrun : step.run files = .ok after) : Spared p files after := by
  cases step with
  | makeFolders folder =>
      obtain rfl : folder = p.folder := h
      rw [Step.run] at hrun
      split at hrun
      · cases hrun
      · next hfiles =>
          cases hrun
          exact spared_addFolders (by simpa using hfiles) fun _ hmem => hmem
  | write path bytes =>
      rw [Step.run] at hrun
      cases hwrite : files.canWrite path with
      | error fault => rw [hwrite] at hrun; cases hrun
      | ok u =>
          rw [hwrite] at hrun
          cases hrun
          exact spared_put h.1 h.2 _
  | rename => cases h

theorem Step.Beside.halfway_spared {p : Path} {step : Step} (h : step.Beside p) (files : Files)
    (progress : Nat) : Spared p files (step.halfway files progress) := by
  cases step with
  | makeFolders folder =>
      obtain rfl : folder = p.folder := h
      rw [Step.halfway]
      split
      · exact .refl p files
      · next hfiles =>
          exact spared_addFolders (by simpa using hfiles) fun _ hmem => List.mem_of_mem_take hmem
  | write path bytes =>
      unfold Step.halfway
      dsimp only
      split
      · exact spared_put h.1 h.2 _
      · exact .refl p files
  | rename => cases h

theorem runSteps_spared {p : Path} (interruption : Option Interruption) {steps : List Step}
    (h : ∀ step ∈ steps, step.Beside p) (index : Nat) (files : Files) :
    Spared p files (runSteps interruption index steps files).2 := by
  induction steps generalizing index files with
  | nil => exact .refl p files
  | cons step rest ih =>
      obtain ⟨hstep, hrest⟩ := List.forall_mem_cons.mp h
      rw [runSteps]
      split
      · exact hstep.halfway_spared files _
      · split
        · exact .refl p files
        · next after hrun => exact (hstep.run_spared hrun).trans (ih hrest _ after)

theorem runSteps_append (interruption : Option Interruption) (index : Nat)
    (steps more : List Step) (files : Files) :
    runSteps interruption index (steps ++ more) files =
      match runSteps interruption index steps files with
      | (some step, after) => (some step, after)
      | (none, after) => runSteps interruption (index + steps.length) more after := by
  induction steps generalizing index files with
  | nil => rfl
  | cons step rest ih =>
      rw [List.cons_append, runSteps, runSteps]
      split
      · rfl
      · split
        · rfl
        · next after hrun =>
            rw [ih, List.length_cons, Nat.add_right_comm, Nat.add_assoc]

theorem runSteps_singleton {interruption : Option Interruption} {index : Nat} {step : Step}
    {files after : Files} {stopped : Option Step}
    (h : runSteps interruption index [step] files = (stopped, after)) :
    stopped = none ∧ step.run files = .ok after ∨
      stopped = some step ∧ (after = files ∨ ∃ progress, after = step.halfway files progress) := by
  rw [runSteps] at h
  split at h
  · cases h
    exact .inr ⟨rfl, .inr ⟨_, rfl⟩⟩
  · split at h
    · cases h
      exact .inr ⟨rfl, .inl rfl⟩
    · next hrun =>
        cases h
        exact .inl ⟨rfl, hrun⟩

theorem folderFault?_of_canWrite {files : Files} {p : Path} (h : files.canWrite p = .ok ()) :
    files.folderFault? p.folder = none := by
  unfold canWrite at h
  split at h
  · split at h
    · cases h
    · next hfault => exact hfault
  · cases h
  · next hread =>
      unfold read at hread
      split at hread
      · cases hread
      · next hfault => exact hfault

-- A file that takes the place of another is there with all its bytes.
theorem read_of_rename {source target : Path} {files after : Files} {bytes : List UInt8}
    (hfolder : source.folder = target.folder) (hentry : files.entry? source.full = some (.file bytes))
    (h : (Step.rename source target).run files = .ok after) :
    after.entry? target.full = some (.file bytes) ∧ after.read target = .ok bytes := by
  rw [Step.run] at h
  split at h
  · cases h
  next found hread =>
  obtain rfl : found = bytes := by
    unfold read at hread
    rw [hentry] at hread
    split at hread <;> cases hread
    rfl
  cases hwrite : files.canWrite target with
  | error fault => rw [hwrite] at h; cases h
  | ok u =>
      rw [hwrite] at h
      cases h
      have hfolders : ∀ path ∈ ancestors target.folder,
          Files.entry? ((files.remove source.full).put target.full (.file found)) path =
            files.entry? path := by
        intro path hpath
        rw [entry?_put, if_neg, entry?_remove, if_neg]
        · rintro rfl
          exact full_not_mem_ancestors hfolder hpath
        · rintro rfl
          exact full_not_mem_ancestors rfl hpath
      have hplace : Files.entry? ((files.remove source.full).put target.full (.file found)) target.full =
          some (.file found) := by
        rw [entry?_put, if_pos rfl]
      refine ⟨hplace, ?_⟩
      rw [read, folderFault?_congr hfolders, folderFault?_of_canWrite hwrite, hplace]

end HostTelemetry.Files
