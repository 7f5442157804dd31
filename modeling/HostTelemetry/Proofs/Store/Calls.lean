import HostTelemetry.Proofs.Poll.Visits
import HostTelemetry.Proofs.Snapshot.Fitting
import HostTelemetry.Proofs.Store.Saving

namespace HostTelemetry

theorem Poll.shown_bounded (plan : Plan) (input : Input) (s : Sampler)
    (answer : Host × Command.Reply) : (shown plan input s answer).1.Bounded := by
  unfold shown
  cases h : (sample plan input.start s answer.1.name answer.2).1 with
  | error e => exact Snapshot.fallback_bounded
  | ok snapshot =>
      unfold sample at h
      split at h
      · cases h
      · obtain ⟨r, hr, rfl⟩ := Sampler.normalize_eq_ok_iff.mp h
        exact Snapshot.snapshotOf_bounded hr _

namespace Store

-- Calls one after another, up to the first that fails.
def runCalls (path : Files.Path) : List Call → Held → Except Fault Held
  | [], held => .ok held
  | call :: rest, held =>
      match call.run path held with
      | (.ok (), held) => runCalls path rest held
      | (.error fault, _) => .error fault

def Call.records : Call → List Record
  | .update records => records
  | _ => []

-- The records that the calls write, in order.
def written (calls : List Call) : List Record :=
  calls.flatMap Call.records

def Call.isPersist : Call → Bool
  | .persist _ => true
  | _ => false

def Call.isReopen : Call → Bool
  | .reopen => true
  | _ => false

section Runs

variable {path : Files.Path} {held held' : Held} {calls before after : List Call}

theorem runCalls_cons {call : Call} {rest : List Call}
    (h : runCalls path (call :: rest) held = .ok held') :
    ∃ mid, call.run path held = (.ok (), mid) ∧ runCalls path rest mid = .ok held' := by
  rw [runCalls] at h
  split at h
  · next mid hcall => exact ⟨mid, hcall, h⟩
  · cases h

theorem runCalls_of_run {call : Call} {mid : Held} (h : call.run path held = (.ok (), mid))
    (rest : List Call) : runCalls path (call :: rest) held = runCalls path rest mid := by
  rw [runCalls, h]

theorem runCalls_append (h : runCalls path (before ++ after) held = .ok held') :
    ∃ mid, runCalls path before held = .ok mid ∧ runCalls path after mid = .ok held' := by
  induction before generalizing held with
  | nil => exact ⟨held, rfl, h⟩
  | cons call rest ih =>
      obtain ⟨mid, hcall, hrest⟩ := runCalls_cons h
      obtain ⟨last, hlast, hafter⟩ := ih hrest
      exact ⟨last, (runCalls_of_run hcall rest).trans hlast, hafter⟩

theorem persist_run {interruption : Option Files.Interruption}
    (h : (Call.persist interruption).run path held = (.ok (), held')) :
    held.store.persist interruption held.files = (.ok (), held'.files) ∧
      held'.store = held.store := by
  rw [Call.run] at h
  cases hpersist : held.store.persist interruption held.files with
  | mk outcome files =>
      rw [hpersist] at h
      cases h
      exact ⟨rfl, rfl⟩

theorem reopen_run (h : Call.reopen.run path held = (.ok (), held')) :
    openAt path held.files = .ok held'.store ∧ held'.files = held.files := by
  rw [Call.run] at h
  split at h
  · next store hopen => cases h; exact ⟨hopen, rfl⟩
  · cases h

-- As long as nothing is opened again, the last record written for a name counts.
theorem get?_runCalls (h : runCalls path calls held = .ok held')
    (hopen : calls.any Call.isReopen = false) (name : String) :
    held'.store.get? name =
      (((written calls).filter (·.name = name)).getLast?).or (held.store.get? name) := by
  induction calls generalizing held with
  | nil => cases h; rfl
  | cons call rest ih =>
      obtain ⟨mid, hcall, hrest⟩ := runCalls_cons h
      obtain ⟨hfirst, hlater⟩ := Bool.or_eq_false_iff.mp (List.any_cons ▸ hopen)
      rw [ih hrest hlater]
      cases call with
      | update records =>
          cases hcall
          have hwritten : written (.update records :: rest) = records ++ written rest := rfl
          rw [get?_update, hwritten, List.filter_append, List.getLast?_append, Option.or_assoc]
      | persist interruption =>
          obtain ⟨-, hstore⟩ := persist_run hcall
          rw [hstore]
          rfl
      | reopen => cases hfirst

theorem files_runCalls (h : runCalls path calls held = .ok held')
    (hpersist : calls.any Call.isPersist = false) : held'.files = held.files := by
  induction calls generalizing held with
  | nil => cases h; rfl
  | cons call rest ih =>
      obtain ⟨mid, hcall, hrest⟩ := runCalls_cons h
      obtain ⟨hfirst, hlater⟩ := Bool.or_eq_false_iff.mp (List.any_cons ▸ hpersist)
      rw [ih hrest hlater]
      cases call with
      | update records => cases hcall; rfl
      | persist interruption => cases hfirst
      | reopen => exact (reopen_run hcall).2

end Runs

theorem written_append (before after : List Call) :
    written (before ++ after) = written before ++ written after :=
  List.flatMap_append

-- A store that lasts: it can be written and is then opened again as it is.
structure Lasting (path : Files.Path) (s : Store) : Prop where
  path : s.path = some path
  sound : s.Sound
  fits : ∀ r ∈ s.all, r.Fits
  readsBack : ∀ r ∈ s.all, r.ReadsBack

theorem Lasting.update {path : Files.Path} {s : Store} (h : Lasting path s) {rs : List Record}
    (hrs : ∀ r ∈ rs, r.Fits ∧ r.ReadsBack) : Lasting path (s.update rs) where
  path := h.path
  sound := h.sound.update rs
  fits r hr := (mem_all_update hr).elim (h.fits r) fun hmem => (hrs r hmem).1
  readsBack r hr := (mem_all_update hr).elim (h.readsBack r) fun hmem => (hrs r hmem).2

theorem Lasting.openAt_of_persist {path : Files.Path} {held held' : Held}
    (h : Lasting path held.store) {interruption : Option Files.Interruption}
    (hrun : (Call.persist interruption).run path held = (.ok (), held')) :
    openAt path held'.files = .ok held.store := by
  obtain ⟨hpersist, -⟩ := persist_run hrun
  rcases persist_cases h.path interruption held.files with
    ⟨after, hsaved, -, hread⟩ | ⟨fault, after, hfailed, -⟩
  · rw [hpersist] at hsaved
    cases hsaved
    exact openAt_encode h.path h.sound h.fits h.readsBack hread
  · rw [hpersist] at hfailed
    cases hfailed

-- What holds between calls: the store lasts, and so does the one that the file holds.
structure Kept (path : Files.Path) (held : Held) : Prop where
  memory : Lasting path held.store
  disk : ∃ s, openAt path held.files = .ok s ∧ Lasting path s

theorem Kept.step {path : Files.Path} {held held' : Held} (h : Kept path held) {call : Call}
    (hwritten : ∀ r ∈ call.records, r.Fits ∧ r.ReadsBack)
    (hcall : call.run path held = (.ok (), held')) : Kept path held' := by
  obtain ⟨hmemory, s, hopen, hdisk⟩ := h
  cases call with
  | update records =>
      cases hcall
      exact ⟨hmemory.update hwritten, s, hopen, hdisk⟩
  | persist interruption =>
      have hstore := (persist_run hcall).2
      exact ⟨hstore ▸ hmemory, _, hmemory.openAt_of_persist hcall, hmemory⟩
  | reopen =>
      obtain ⟨hopened, hfiles⟩ := reopen_run hcall
      rw [hopen] at hopened
      cases hopened
      exact ⟨hdisk, _, by rw [hfiles, hopen], hdisk⟩

theorem Kept.run {path : Files.Path} {held held' : Held} (h : Kept path held) {calls : List Call}
    (hwritten : ∀ r ∈ written calls, r.Fits ∧ r.ReadsBack)
    (hrun : runCalls path calls held = .ok held') : Kept path held' := by
  induction calls generalizing held with
  | nil => cases hrun; exact h
  | cons call rest ih =>
      obtain ⟨mid, hcall, hrest⟩ := runCalls_cons hrun
      obtain ⟨hfirst, hlater⟩ := List.forall_mem_append.mp hwritten
      exact ih (h.step hfirst hcall) hlater hrest

-- The records of a tick can be stored: their values have names and a shape that a file
-- keeps, whatever the host printed.
theorem tick_record_fits {σ : Type} {plan : Poll.Plan} {sink : Publish.Sink σ} {input : Poll.Input}
    {s : Poll.State σ} {r : Record} (htime : inIntRange input.timestamp = true)
    (hr : r ∈ (Poll.tick plan sink input s).1.report.hosts) : r.Fits := by
  obtain ⟨answer, -, sampler, rfl⟩ := Poll.tick_record_from hr
  have hvalues : (Poll.recordFor input answer (Poll.shown plan input sampler answer)).values =
      (Poll.shown plan input sampler answer).1.values := by
    simp only [Poll.recordFor, Poll.recordOf]
  refine ⟨?_, ?_, htime, ?_⟩
  · rw [hvalues]
    exact fun own hown => (Poll.shown_wellKeyed plan input sampler answer).ownName_not_mem hown
  · rw [hvalues]
    exact Keyed.ascending_ofList _
  · rw [hvalues]
    exact fun f hf => (Poll.shown_bounded plan input sampler answer).entries_fit (by decide) f
      (Keyed.mem_of_mem_ofList hf)

-- The store answers with the last record of each name, in the order of the names, and
-- a store that is opened on its file is the store as it was last saved.
theorem runCalls_faithful {path : Files.Path} {files : Files} {s : Store}
    (hopen : openAt path files = .ok s) (hloaded : ∀ r ∈ s.all, r.ReadsBack) {calls : List Call}
    (hwritten : ∀ r ∈ written calls, r.Fits ∧ r.ReadsBack) {held : Held}
    (hrun : runCalls path calls ⟨s, files⟩ = .ok held) :
    (∀ before after, calls = before ++ after → after.any Call.isReopen = false →
      ∃ mid, runCalls path before ⟨s, files⟩ = .ok mid ∧ ∀ name, held.store.get? name =
        (((written after).filter (·.name = name)).getLast?).or (mid.store.get? name)) ∧
    held.store.all.Pairwise (·.name < ·.name) ∧
    (∀ name r, held.store.get? name = some r ↔ r ∈ held.store.all ∧ r.name = name) ∧
    (∀ before interruption after, calls = before ++ .persist interruption :: after →
      after.any Call.isPersist = false →
      ∃ mid, runCalls path before ⟨s, files⟩ = .ok mid ∧
        openAt path held.files = .ok mid.store) ∧
    (calls.any Call.isPersist = false → openAt path held.files = .ok s) ∧
    ∀ {σ : Type} (plan : Poll.Plan) (sink : Publish.Sink σ) (input : Poll.Input)
      (state : Poll.State σ), inIntRange input.timestamp = true →
      ∀ r ∈ (Poll.tick plan sink input state).1.report.hosts, r.Fits := by
  obtain ⟨hpath, hsound, hfits⟩ := openAt_sound hopen
  have hstart : Lasting path s := ⟨hpath, hsound, hfits, hloaded⟩
  have hkept : Kept path ⟨s, files⟩ := ⟨hstart, s, hopen, hstart⟩
  have hmemory := (hkept.run hwritten hrun).memory
  refine ⟨?_, hmemory.sound.all_ascending, hmemory.sound.get?_eq_some_iff, ?_, ?_, ?_⟩
  · rintro before after rfl hreopen
    obtain ⟨mid, hbefore, hafter⟩ := runCalls_append hrun
    exact ⟨mid, hbefore, get?_runCalls hafter hreopen⟩
  · rintro before interruption after rfl hpersist
    obtain ⟨mid, hbefore, hlast⟩ := runCalls_append hrun
    obtain ⟨saved, hcall, hafter⟩ := runCalls_cons hlast
    have hmid := (hkept.run (List.forall_mem_append.mp (written_append .. ▸ hwritten)).1 hbefore).memory
    refine ⟨mid, hbefore, ?_⟩
    rw [files_runCalls hafter hpersist]
    exact hmid.openAt_of_persist hcall
  · intro hpersist
    rw [files_runCalls hrun hpersist]
    exact hopen
  · exact fun plan sink input state htime r hr => tick_record_fits htime hr

def mailStore : Store := ⟨[("mail", mailRecord)], some statsPath⟩

def webRecord (cpu : Int) : Record :=
  ⟨"web", true, none, 1700000000000,
    [("container_stats", .list [.object [("cpu", .float 2.5), ("name", .text "db")]]),
     ("cpu", .int cpu), ("temp", .null)]⟩

def downRecord : Record := ⟨"db", false, some "command timed out", 1700000000000, []⟩

-- The last update is lost, as it was not saved.
def restartCalls : List Call :=
  [.update [webRecord 10, downRecord], .persist none, .update [webRecord 20], .reopen]

theorem mailRecord_storable : mailRecord.Fits ∧ mailRecord.ReadsBack := by
  refine ⟨⟨by decide, List.pairwise_singleton _ _, by decide, ?_⟩, ?_⟩
  · have hcpu : inIntRange 4 = true := by decide
    exact List.forall_mem_singleton.mpr ((Json.int_fits hcpu).fits _)
  · exact List.forall_mem_singleton.mpr fun f hf => nomatch hf

theorem downRecord_storable : downRecord.Fits ∧ downRecord.ReadsBack :=
  ⟨⟨by decide, .nil, by decide, List.forall_mem_nil _⟩, List.forall_mem_nil _⟩

theorem webRecord_storable {cpu : Int} (h : inIntRange cpu = true) :
    (webRecord cpu).Fits ∧ (webRecord cpu).ReadsBack := by
  have hclear : ∀ own ∈ Record.ownNames, own ∉ ["container_stats", "cpu", "temp"] := by decide
  have hnames : ["container_stats", "cpu", "temp"].Pairwise (· < ·) := by decide
  have hinner : ["cpu", "name"].Pairwise (· < ·) := by decide
  have hfloat : Json.ReadsBack 2.5 := by decide +kernel
  have htime : inIntRange 1700000000000 = true := by decide
  refine ⟨⟨hclear, List.pairwise_map.mp hnames, htime, ?_⟩, ?_⟩
  · simp only [webRecord, List.forall_mem_cons]
    refine ⟨List.forall_mem_singleton.mpr ⟨List.pairwise_map.mp hinner, ?_⟩,
      (Json.int_fits h).fits _, trivial, List.forall_mem_nil _⟩
    simp only [List.forall_mem_cons]
    exact ⟨trivial, trivial, List.forall_mem_nil _⟩
  · simp only [Record.ReadsBack, webRecord, List.forall_mem_cons]
    refine ⟨fun f hf => ?_, nofun, nofun, List.forall_mem_nil _⟩
    obtain ⟨v, hv, hf⟩ : ∃ v ∈ [Json.object [("cpu", .float 2.5), ("name", .text "db")]],
        v.Holds f := by
      cases hf with
      | item hv hf => exact ⟨_, hv, hf⟩
    obtain rfl := List.mem_singleton.mp hv
    cases hf with
    | field hv hf =>
        rcases List.mem_pair.mp hv with he | he <;> cases he <;> cases hf
        exact hfloat

theorem runCalls_faithful_restart :
    openAt statsPath mailFiles = .ok mailStore ∧ (∀ r ∈ mailStore.all, r.ReadsBack) ∧
    (∀ r ∈ written restartCalls, r.Fits ∧ r.ReadsBack) ∧
    ∃ held, runCalls statsPath restartCalls ⟨mailStore, mailFiles⟩ = .ok held ∧
      openAt statsPath held.files = .ok (mailStore.update [webRecord 10, downRecord]) ∧
      held.store.get? "web" = some (webRecord 10) ∧ held.store.get? "mail" = some mailRecord := by
  have hmail : Lasting statsPath mailStore :=
    ⟨rfl, ⟨List.pairwise_singleton _ _, by simp [mailStore, mailRecord]⟩,
      List.forall_mem_singleton.mpr mailRecord_storable.1,
      List.forall_mem_singleton.mpr mailRecord_storable.2⟩
  have hopen : openAt statsPath mailFiles = .ok mailStore :=
    openAt_encode hmail.path hmail.sound hmail.fits hmail.readsBack rfl
  have hten : (webRecord 10).Fits ∧ (webRecord 10).ReadsBack := webRecord_storable (by decide)
  have htwenty : (webRecord 20).Fits ∧ (webRecord 20).ReadsBack := webRecord_storable (by decide)
  have hwritten : ∀ r ∈ written restartCalls, r.Fits ∧ r.ReadsBack := by
    simp only [written, restartCalls, Call.records, List.flatMap_cons, List.flatMap_nil,
      List.append_nil, List.nil_append, List.cons_append, List.forall_mem_cons]
    exact ⟨hten, downRecord_storable, htwenty, List.forall_mem_nil _⟩
  let saved := mailStore.update [webRecord 10, downRecord]
  have hsaved : Lasting statsPath saved := hmail.update fun r hr =>
    hwritten r (List.mem_append_left [webRecord 20] hr)
  obtain ⟨after, hpersist⟩ : ∃ after, (Call.persist none).run statsPath ⟨saved, mailFiles⟩ =
      (.ok (), ⟨saved, after⟩) := ⟨_, rfl⟩
  have hreopen : Call.reopen.run statsPath ⟨saved.update [webRecord 20], after⟩ =
      (.ok (), ⟨saved, after⟩) := by
    rw [Call.run, hsaved.openAt_of_persist hpersist]
  have hrun : runCalls statsPath restartCalls ⟨mailStore, mailFiles⟩ = .ok ⟨saved, after⟩ := by
    have hfirst : (Call.update [webRecord 10, downRecord]).run statsPath ⟨mailStore, mailFiles⟩ =
        (.ok (), ⟨saved, mailFiles⟩) := rfl
    have hlost : (Call.update [webRecord 20]).run statsPath ⟨saved, after⟩ =
        (.ok (), ⟨saved.update [webRecord 20], after⟩) := rfl
    rw [restartCalls, runCalls_of_run hfirst, runCalls_of_run hpersist, runCalls_of_run hlost,
      runCalls_of_run hreopen, runCalls]
  obtain ⟨-, -, -, hdisk, -⟩ := runCalls_faithful hopen hmail.readsBack hwritten hrun
  obtain ⟨mid, hmid, hagain⟩ :=
    hdisk [.update [webRecord 10, downRecord]] none [.update [webRecord 20], .reopen] rfl rfl
  cases hmid
  exact ⟨hopen, hmail.readsBack, hwritten, _, hrun, hagain, rfl, rfl⟩

end Store

end HostTelemetry
