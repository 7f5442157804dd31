import HostTelemetry.Proofs.Store.Files
import HostTelemetry.Proofs.Store.Image

namespace HostTelemetry.Store

-- What a process has in memory and what there is on disk.
structure Held where
  store : Store
  files : Files

inductive Call where
  | update (records : List Record)
  | persist (interruption : Option Files.Interruption)
  | reopen

-- Updates stay in memory, and only a reopening brings anything back from the disk.
def Call.run (path : Files.Path) (held : Held) : Call → Except Fault Unit × Held
  | .update records => (.ok (), { held with store := held.store.update records })
  | .persist interruption =>
      let (outcome, files) := held.store.persist interruption held.files
      (outcome, { held with files := files })
  | .reopen =>
      match openAt path held.files with
      | .ok store => (.ok (), { held with store := store })
      | .error fault => (.error fault, held)

-- What comes before the rename.
def preparation (path : Files.Path) (rs : List Record) : List Files.Step :=
  folderSteps path.folder ++ [.write path.temporary (encode rs)]

theorem steps_eq (path : Files.Path) (rs : List Record) :
    steps path rs = preparation path rs ++ [.rename path.temporary path] := by
  rw [steps, preparation, List.append_assoc]
  rfl

theorem preparation_beside (path : Files.Path) (rs : List Record) :
    ∀ step ∈ preparation path rs, step.Beside path := by
  intro step hstep
  rcases List.mem_append.mp hstep with hfolders | hwrite
  · unfold folderSteps at hfolders
    split at hfolders
    · cases hfolders
    · rw [List.mem_singleton.mp hfolders]
      rfl
  · rw [List.mem_singleton.mp hwrite]
    exact ⟨rfl, path.temporary_full_ne⟩

theorem entry?_of_preparation {interruption : Option Files.Interruption} {path : Files.Path}
    {rs : List Record} {files after : Files}
    (h : Files.runSteps interruption 0 (preparation path rs) files = (none, after)) :
    after.entry? path.temporary.full = some (.file (encode rs)) := by
  rw [preparation, Files.runSteps_append] at h
  split at h
  · cases h
  · next mid _ =>
      obtain ⟨-, hrun⟩ := (Files.runSteps_singleton h).resolve_right fun hstopped => nomatch hstopped.1
      rw [Files.Step.run] at hrun
      cases hwrite : mid.canWrite path.temporary with
      | error fault => rw [hwrite] at hrun; cases hrun
      | ok u =>
          rw [hwrite] at hrun
          cases hrun
          rw [Files.entry?_put, if_pos rfl]

-- Saving either gets through and the list is there, or it fails and the path is as it
-- was, up to folders that were made above it.
theorem persist_cases {s : Store} {path : Files.Path} (hpath : s.path = some path)
    (interruption : Option Files.Interruption) (files : Files) :
    (∃ after, s.persist interruption files = (.ok (), after) ∧
      after.entry? path.full = some (.file (encode s.all)) ∧
      after.read path = .ok (encode s.all)) ∨
    ∃ fault after, s.persist interruption files = (.error fault, after) ∧
      Files.Spared path files after := by
  have hspared := Files.runSteps_spared interruption (preparation_beside path s.all) 0 files
  simp only [persist, hpath, steps_eq, Files.runSteps_append]
  cases hprepare : Files.runSteps interruption 0 (preparation path s.all) files with
  | mk stopped mid =>
      rw [hprepare] at hspared
      cases stopped with
      | some step => exact .inr ⟨_, mid, rfl, hspared⟩
      | none =>
          dsimp only
          cases hrename : Files.runSteps interruption (0 + (preparation path s.all).length)
              [.rename path.temporary path] mid with
          | mk stopped after =>
              rcases Files.runSteps_singleton hrename with ⟨rfl, hrun⟩ | ⟨rfl, hsame⟩
              · have hfolder : path.temporary.folder = path.folder := rfl
                exact .inl ⟨after, rfl,
                  Files.read_of_rename hfolder (entry?_of_preparation hprepare) hrun⟩
              -- a rename that is interrupted has changed nothing
              · obtain rfl : after = mid := hsame.elim id fun ⟨_, hhalfway⟩ => hhalfway
                exact .inr ⟨_, after, rfl, hspared⟩

-- Wherever saving stops, the path has the old bytes or all of the new ones, and a store
-- that is opened on it has the old records or all of the new ones.
theorem persist_atomic {s : Store} {path : Files.Path} (hpath : s.path = some path)
    (interruption : Option Files.Interruption) (files : Files) :
    path.temporary.full ≠ path.full ∧
    ∃ outcome after, (Call.persist interruption).run path ⟨s, files⟩ = (outcome, ⟨s, after⟩) ∧
      match outcome with
      | .ok () =>
          after.entry? path.full = some (.file (encode s.all)) ∧
          after.read path = .ok (encode s.all) ∧
          openAt path after = .ok ⟨putAll [] (decode (encode s.all)), some path⟩ ∧
          (s.Sound → (∀ r ∈ s.all, r.Fits ∧ r.ReadsBack) → openAt path after = .ok s)
      | .error _ =>
          after.entry? path.full = files.entry? path.full ∧
          (files.Rooted → after.read path = files.read path ∧
            openAt path after = openAt path files) := by
  refine ⟨path.temporary_full_ne, ?_⟩
  rcases persist_cases hpath interruption files with
    ⟨after, hpersist, hentry, hread⟩ | ⟨fault, after, hpersist, hspared⟩
  · have hopen : openAt path after = .ok ⟨putAll [] (decode (encode s.all)), some path⟩ := by
      rw [openAt, hread]
    refine ⟨.ok (), after, by rw [Call.run, hpersist], hentry, hread, hopen, ?_⟩
    intro hsound hrecords
    exact openAt_encode hpath hsound (fun r hr => (hrecords r hr).1) (fun r hr => (hrecords r hr).2)
      hread
  · refine ⟨.error fault, after, by rw [Call.run, hpersist], hspared.entry, fun hrooted => ?_⟩
    have hread := hspared.read_eq hrooted
    exact ⟨hread, by rw [openAt, openAt, hread]⟩

def statsPath : Files.Path := ⟨["data"], "stats.json"⟩

-- A record of an earlier run, for a host that is asked no more.
def mailRecord : Record := ⟨"mail", true, none, 1600000000000, [("cpu", .int 4)]⟩

def mailFiles : Files :=
  [(["data"], .folder), (["data", "stats.json"], .file (encode [mailRecord]))]

def webStore : Store :=
  ⟨[("web", ⟨"web", false, some "command timed out", 1700000000000, []⟩)], some statsPath⟩

theorem webStore_sound : webStore.Sound :=
  ⟨List.pairwise_singleton _ _, by simp [webStore]⟩

theorem webStore_storable : ∀ r ∈ webStore.all, r.Fits ∧ r.ReadsBack :=
  List.forall_mem_singleton.mpr
    ⟨⟨by decide, .nil, by decide, List.forall_mem_nil _⟩, List.forall_mem_nil _⟩

-- The temporary file first gets no further than its first three bytes; the second time
-- nothing breaks off.
theorem persist_atomic_torn :
    webStore.path = some statsPath ∧ mailFiles.Rooted ∧ webStore.Sound ∧
    (∀ r ∈ webStore.all, r.Fits ∧ r.ReadsBack) ∧
    (∃ after, (Call.persist (some ⟨1, 4⟩)).run statsPath ⟨webStore, mailFiles⟩ =
        (.error (.write statsPath.temporary), ⟨webStore, after⟩) ∧
      after.read statsPath = .ok (encode [mailRecord]) ∧
      openAt statsPath after = openAt statsPath mailFiles) ∧
    ∃ after, (Call.persist none).run statsPath ⟨webStore, mailFiles⟩ =
        (.ok (), ⟨webStore, after⟩) ∧
      openAt statsPath after = .ok webStore := by
  have hpath : webStore.path = some statsPath := rfl
  have hrooted : mailFiles.Rooted := by decide
  refine ⟨hpath, hrooted, webStore_sound, webStore_storable, ?_, ?_⟩
  · obtain ⟨-, outcome, after, hrun, hkept⟩ := persist_atomic hpath (some ⟨1, 4⟩) mailFiles
    have houtcome : outcome = .error (.write statsPath.temporary) :=
      (congrArg Prod.fst hrun).symm
    subst houtcome
    obtain ⟨hread, hopen⟩ := hkept.2 hrooted
    exact ⟨after, hrun, hread, hopen⟩
  · obtain ⟨-, outcome, after, hrun, hkept⟩ := persist_atomic hpath none mailFiles
    have houtcome : outcome = .ok () := (congrArg Prod.fst hrun).symm
    subst houtcome
    exact ⟨after, hrun, hkept.2.2.2 webStore_sound webStore_storable⟩

end HostTelemetry.Store
