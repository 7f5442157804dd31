import HostTelemetry.Proofs.Poll.Discovery
import HostTelemetry.Proofs.Poll.Isolation
import HostTelemetry.Proofs.Poll.Visits

namespace HostTelemetry.Poll

variable {σ : Type}

-- What a reply comes to for a host of which this much is remembered.
def outcome (plan : Plan) (input : Input) (s : Sampler) (answer : Host × Command.Reply) :
    Except SampleFault Snapshot :=
  (sample plan input.start s answer.1.name answer.2).1

-- Whether a record tells what came of sampling its host.
def Tells (record : Record) : Except SampleFault Snapshot → Prop
  | .ok snapshot =>
      record.available = true ∧ record.error = none ∧ record.values = snapshot.values
  | .error fault => record.available = false ∧ record.error = some fault.message ∧
      record.values = Snapshot.fallback.values

-- A segment of the events that is about one host: announcements, then the values
-- that are not disabled. A host that failed announces nothing but metrics.
def Hands (plan : Plan) (record : Record) (segment : List Event) : Prop :=
  ∃ offers ok,
    segment = offers ++ [.publish record.name (record.values.without plan.disabled) ok] ∧
    ∀ event ∈ offers, ∃ category keys taken, event = .announce record.name category keys taken ∧
      (record.available = false → category = .metric ∧ ∀ key ∈ keys, key ∈ metricKeys)

-- What every tick comes to, whichever hosts fail and whatever the sink and the file
-- make of it. `calls` says that the events are what the sink was called for, `kept` and
-- `remembered` say what the tick leaves alone.
structure Settled (plan : Plan) (sink : Publish.Sink σ) (input : Input) (s : State σ) (t : Tick)
    (after : State σ) : Prop where
  timestamp : t.report.timestamp = input.timestamp
  records : List.Forall₂ (fun answer record => record.name = answer.1.name ∧
    record.timestamp = input.timestamp ∧ Tells record (outcome plan input s.sampler answer))
    input.answers t.report.hosts
  events : ∃ segments, t.events = segments.flatten ∧
    List.Forall₂ (Hands plan) t.report.hosts segments
  calls : Replays sink s.sink t.events after.sink
  remembered : ∀ answer ∈ input.answers, ∀ fault,
    outcome plan input s.sampler answer = .error fault →
      after.sampler.memory answer.1.name = s.sampler.memory answer.1.name
  stored : ∀ record ∈ t.report.hosts, after.store.get? record.name = some record
  kept : ∀ name ∉ input.answers.map (·.1.name), after.store.get? name = s.store.get? name
  broadcast : ∀ receiver < s.channel.pending.length,
    after.channel.waiting receiver <:+ s.channel.waiting receiver ++ [t.report] ∧
      (0 < s.channel.capacity → (after.channel.waiting receiver).getLast? = some t.report)

section Record

variable (plan : Plan) (input : Input) (s : Sampler) (answer : Host × Command.Reply)

@[simp] theorem recordFor_name (shown : Snapshot × Option SampleFault) :
    (recordFor input answer shown).name = answer.1.name := rfl

@[simp] theorem recordFor_values (shown : Snapshot × Option SampleFault) :
    (recordFor input answer shown).values = shown.1.values := by
  simp only [recordFor, recordOf]

@[simp] theorem recordFor_available (shown : Snapshot × Option SampleFault) :
    (recordFor input answer shown).available = shown.2.isNone := rfl

theorem recordOf_tells (host : String) (timestamp : Int) (result : Except SampleFault Snapshot) :
    Tells (recordOf host timestamp (settle result).1 (settle result).2) result := by
  cases result <;> simp [Tells, settle, recordOf]

theorem recordFor_tells :
    Tells (recordFor input answer (shown plan input s answer)) (outcome plan input s answer) :=
  recordOf_tells _ _ _

theorem fault_shows_fallback (h : (shown plan input s answer).2.isNone = false) :
    (shown plan input s answer).1 = Snapshot.fallback := by
  unfold shown at h ⊢
  cases hs : (sample plan input.start s answer.1.name answer.2).1 with
  | ok snapshot => rw [hs] at h; cases h
  | error fault => rfl

theorem Visited.hands {segment : List Event}
    (h : Visited plan answer.1.name (shown plan input s answer) segment) :
    Hands plan (recordFor input answer (shown plan input s answer)) segment := by
  obtain ⟨offers, ok, rfl, hoffers⟩ := h
  simp only [Hands, recordFor_name, recordFor_values, recordFor_available]
  refine ⟨offers, ok, rfl, fun event hevent => ?_⟩
  have hoffer := hoffers event hevent
  cases event with
  | publish => cases hoffer
  | announce name category keys taken =>
      obtain ⟨rfl, hcategory, ids, hids, rfl⟩ := hoffer
      refine ⟨category, _, taken, rfl, fun hfault => ?_⟩
      rw [hfault] at hcategory
      obtain rfl := List.mem_singleton.mp hcategory
      rw [fault_shows_fallback plan input s answer hfault] at hids
      refine ⟨rfl, fun key hk => ?_⟩
      obtain ⟨⟨id, hid, hk⟩, -⟩ := mem_enabledKeys.mp hk
      exact List.mem_singleton.mp hk ▸ hids hid

end Record

section Sampler

variable (plan : Plan) (sink : Publish.Sink σ) (input : Input)

theorem sample_snd_of_fault {start : Nat} {s : Sampler} {host : String} {reply : Command.Reply}
    {fault : SampleFault} (h : (sample plan start s host reply).1 = .error fault) :
    (sample plan start s host reply).2 = s := by
  unfold sample at h ⊢
  split
  · rfl
  · next stdout htext =>
      rw [htext] at h
      dsimp only at h
      unfold Sampler.normalize at h ⊢
      split
      · rfl
      · next r hr => rw [hr] at h; cases h

-- A host is remembered as before as long as each of its replies fails.
theorem foldl_visit_memory {host : String} {s : Sampler} {answers : List (Host × Command.Reply)}
    (hfails : ∀ answer ∈ answers, answer.1.name = host →
      ∃ fault, outcome plan input s answer = .error fault)
    {p : Pass σ} (h : p.sampler.memory host = s.memory host) :
    (answers.foldl (visit plan sink input) p).sampler.memory host = s.memory host := by
  induction answers generalizing p with
  | nil => exact h
  | cons answer rest ih =>
      refine ih (fun later hr => hfails later (List.mem_cons_of_mem _ hr)) ?_
      obtain ⟨hsampler, -⟩ := visit_segment plan sink input p answer
      rw [hsampler, ← h]
      by_cases hname : answer.1.name = host
      · obtain ⟨fault, hfault⟩ := hfails answer List.mem_cons_self hname
        subst hname
        have hsame := (sample_congr plan input.start answer.1.name answer.2 h).1
        rw [sample_snd_of_fault plan (hsame.trans hfault)]
      · exact sample_memory_of_ne plan input.start answer.1.name answer.2 p.sampler hname

-- As the hosts differ by name, each of them meets what was remembered of it at the
-- start of the tick.
theorem pass_visits (hnames : (input.answers.map (·.1.name)).Nodup)
    (s : State σ) :
    (pass plan sink input s).records =
        input.answers.map (fun answer => recordFor input answer (shown plan input s.sampler answer)) ∧
    ∃ segments, (pass plan sink input s).events = segments.flatten ∧
      List.Forall₂ (fun answer segment =>
        Visited plan answer.1.name (shown plan input s.sampler answer) segment)
        input.answers segments := by
  have hkept : input.answers.Pairwise fun answer later => ∀ sampler : Sampler,
      sampler.memory later.1.name = s.sampler.memory later.1.name →
      (sample plan input.start sampler answer.1.name answer.2).2.memory later.1.name =
        s.sampler.memory later.1.name := by
    refine (List.pairwise_map.mp hnames).imp fun hne sampler hknown => ?_
    rw [sample_memory_of_ne plan input.start _ _ sampler hne, hknown]
  obtain ⟨visits, hrecords, hevents, hvisits⟩ := foldl_visit_segments plan sink input hkept
    (p := ⟨s.sampler, s.registry, s.sink, [], []⟩) (fun _ _ => rfl)
  have hshown : List.Forall₂ (fun answer visit =>
      recordFor input answer (shown plan input s.sampler answer) = visit.1 ∧
      Visited plan answer.1.name (shown plan input s.sampler answer) visit.2)
      input.answers visits := by
    refine hvisits.imp ?_
    rintro answer visit ⟨sampler, hknown, hrecord, hvisited⟩
    have hsame : shown plan input sampler answer = shown plan input s.sampler answer := by
      rw [shown, shown, (sample_congr plan input.start answer.1.name answer.2 hknown).1]
    exact hsame ▸ ⟨hrecord.symm, hvisited⟩
  refine ⟨?_, visits.map Prod.snd, hevents, ?_⟩
  · rw [pass, hrecords, List.nil_append, ← List.forall₂_eq_eq_eq, List.forall₂_map_left_iff,
      List.forall₂_map_right_iff]
    exact hshown.flip.imp fun _ _ h => h.1.symm
  · exact List.forall₂_map_right_iff.mpr (hshown.imp fun _ _ h => h.2)

end Sampler

theorem waiting_send {α : Type} (channel : Stream.Channel α) (v : α) {receiver : Nat}
    (h : receiver < channel.pending.length) :
    (channel.send v).waiting receiver <:+ channel.waiting receiver ++ [v] ∧
      (0 < channel.capacity → ((channel.send v).waiting receiver).getLast? = some v) := by
  have hwaiting : (channel.send v).waiting receiver =
      Stream.Channel.keepLast channel.capacity (channel.waiting receiver ++ [v]) := by
    simp [Stream.Channel.waiting, Stream.Channel.send, h]
  rw [hwaiting, Stream.Channel.keepLast]
  refine ⟨List.drop_suffix _ _, fun hcapacity => ?_⟩
  rw [List.getLast?_drop, List.getLast?_concat, if_neg]
  simp only [List.length_append, List.length_singleton]
  omega

-- Takes no call at all.
def deafSink : Publish.Sink Unit where
  publish _ _ _ := (.error "not connected", ())
  announce _ _ _ _ := (.error "not connected", ())

-- One of two hosts refuses, and saving breaks off in the middle of the file.
def roughTick : Input where
  start := 0
  timestamp := 1700000000000
  answers :=
    [(⟨"web", "10.0.0.1", 22, "root", none, none⟩,
      ⟨40, .ok ⟨"\x7b\"containers\":3\x7d", "", some 0⟩⟩),
     (⟨"db", "10.0.0.2", 22, "root", none, none⟩, ⟨5, .error (.connection "refused")⟩)]
  interruption := some ⟨0, 7⟩

def retired : Record := ⟨"mail", true, none, 1600000000000, [("cpu", .int 4)]⟩

def beforeRoughTick : State Unit :=
  .start () ⟨[("mail", retired)], some ⟨[], "stats.json"⟩⟩ [] (Stream.Channel.ofCapacity 1).subscribe

end HostTelemetry.Poll
