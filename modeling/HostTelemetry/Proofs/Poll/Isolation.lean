import HostTelemetry.Proofs.Poll.History
import HostTelemetry.Proofs.Registry
import HostTelemetry.Proofs.Sampler.Memory
import HostTelemetry.Proofs.Store.Basic

namespace HostTelemetry.Poll

variable {σ τ : Type}

-- One host's part of the state: its rates and energy, what was announced for it,
-- and its stored record.
structure HostState where
  memory : Sampler.Memory
  announced : Registry
  record : Option Record

def State.view (s : State σ) (host : String) : HostState :=
  ⟨s.sampler.memory host, s.registry.filter (·.host = host), s.store.get? host⟩

-- One host's part of a tick.
structure HostTick where
  records : List Record
  events : List Event

def Tick.view (t : Tick) (host : String) : HostTick :=
  ⟨t.report.hosts.filter (·.name = host), t.events.filter (·.host = host)⟩

-- The same while a tick is under way.
structure HostPass where
  memory : Sampler.Memory
  announced : Registry
  records : List Record
  events : List Event

def Pass.view (p : Pass σ) (host : String) : HostPass :=
  ⟨p.sampler.memory host, p.registry.filter (·.host = host), p.records.filter (·.name = host),
   p.events.filter (·.host = host)⟩

-- How the sink answered the calls for a host, in their order.
def answersTo (host : String) (events : List Event) : List Bool :=
  (events.filter (·.host = host)).map Event.taken

-- As long as both have calls for the host, they are answered alike.
def AnswersAgree (host : String) (events events' : List Event) : Prop :=
  ∀ (n : Nat) (ok ok' : Bool), (answersTo host events)[n]? = some ok →
    (answersTo host events')[n]? = some ok' → ok = ok'

theorem answersTo_getElem?_of_grow {host : String} {events later : List Event}
    (h : events <+: later) {n : Nat} {ok : Bool} (hn : (answersTo host events)[n]? = some ok) :
    (answersTo host later)[n]? = some ok := by
  obtain ⟨rest, rfl⟩ := h
  have hlt : n < (answersTo host events).length := (List.getElem?_eq_some_iff.mp hn).1
  rw [answersTo, List.filter_append, List.map_append, ← answersTo,
    List.getElem?_append_left hlt, hn]

theorem AnswersAgree.of_grow {host : String} {events events' later later' : List Event}
    (h : AnswersAgree host later later') (hgrow : events <+: later) (hgrow' : events' <+: later') :
    AnswersAgree host events events' :=
  fun n ok ok' hn hn' => h n ok ok' (answersTo_getElem?_of_grow hgrow hn)
    (answersTo_getElem?_of_grow hgrow' hn')

theorem answersAgree_of_taken {host : String} {events events' : List Event}
    (h : events.all Event.taken) (h' : events'.all Event.taken) :
    AnswersAgree host events events' := by
  have htrue : ∀ {events : List Event}, events.all Event.taken →
      ∀ {n : Nat} {ok : Bool}, (answersTo host events)[n]? = some ok → ok = true := by
    intro events h n ok hn
    obtain ⟨event, he, rfl⟩ := List.mem_map.mp (List.mem_of_getElem? hn)
    exact List.all_eq_true.mp h event (List.mem_filter.mp he).1
  exact fun n ok ok' hn hn' => (htrue h hn).trans (htrue h' hn').symm

theorem answersTo_concat_last {host : String} (events : List Event) {event : Event}
    (h : event.host = host) :
    (answersTo host (events ++ [event]))[(events.filter (·.host = host)).length]? =
      some event.taken := by
  simp [answersTo, h]

theorem AnswersAgree.last {host : String} {events events' : List Event} {event event' : Event}
    (h : AnswersAgree host (events ++ [event]) (events' ++ [event']))
    (hsame : events.filter (·.host = host) = events'.filter (·.host = host))
    (he : event.host = host) (he' : event'.host = host) : event.taken = event'.taken :=
  h _ _ _ (answersTo_concat_last events he) (hsame ▸ answersTo_concat_last events' he')

section Sample

variable (plan : Plan) (start : Nat) (host : String) (reply : Command.Reply)

theorem sample_memory_of_ne (s : Sampler) {other : String} (h : host ≠ other) :
    (sample plan start s host reply).2.memory other = s.memory other := by
  unfold sample
  split
  · rfl
  · rw [Sampler.normalize_memory]
    split <;> simp [h]

theorem sample_congr {s s' : Sampler} (h : s.memory host = s'.memory host) :
    (sample plan start s host reply).1 = (sample plan start s' host reply).1 ∧
      (sample plan start s host reply).2.memory host =
        (sample plan start s' host reply).2.memory host := by
  unfold sample
  split
  · exact ⟨rfl, h⟩
  · simp only [Sampler.normalize_fst, Sampler.normalize_memory, h, and_self]

end Sample

section Announce

variable (plan : Plan) (sink : Publish.Sink σ) (sink' : Publish.Sink τ) (host : String)
  (snapshot : Snapshot)

theorem announce_view_of_ne {other : String} (h : host ≠ other) (p : Pass σ)
    (category : Category) :
    (announce plan sink host snapshot p category).view other = p.view other := by
  rcases announce_cases plan sink host snapshot p category with
    ⟨-, he⟩ | ⟨-, s, ok, he⟩ <;> rw [he]
  · simp only [Pass.view, Registry.filter_record, h, if_false]
  · cases ok <;> simp [Pass.view, Registry.filter_record, h, Event.host]

theorem foldl_announce_view_of_ne {other : String} (h : host ≠ other)
    (categories : List Category) (p : Pass σ) :
    (categories.foldl (announce plan sink host snapshot) p).view other = p.view other := by
  induction categories generalizing p with
  | nil => rfl
  | cons category rest ih =>
      rw [List.foldl_cons, ih, announce_view_of_ne plan sink host snapshot h]

theorem freshIds_congr {p : Pass σ} {q : Pass τ} (h : p.view host = q.view host)
    (category : Category) :
    freshIds host snapshot p category = freshIds host snapshot q category := by
  have hr : p.registry.filter (·.host = host) = q.registry.filter (·.host = host) :=
    congrArg HostPass.announced h
  rw [freshIds, freshIds, ← Registry.peek_filter, hr, Registry.peek_filter]

theorem announce_view {p : Pass σ} {q : Pass τ} (h : p.view host = q.view host)
    (category : Category)
    (hanswers : AnswersAgree host (announce plan sink host snapshot p category).events
      (announce plan sink' host snapshot q category).events) :
    (announce plan sink host snapshot p category).view host =
      (announce plan sink' host snapshot q category).view host := by
  have hids := freshIds_congr host snapshot h category
  have hkeys : freshKeys plan host snapshot p category = freshKeys plan host snapshot q category :=
    congrArg (enabledKeys plan category) hids
  simp only [Pass.view, HostPass.mk.injEq] at h
  obtain ⟨hmemory, hregistry, hrecords, hevents⟩ := h
  rcases announce_cases plan sink host snapshot p category with
    ⟨hnil, he⟩ | ⟨hcons, s, ok, he⟩ <;>
    rcases announce_cases plan sink' host snapshot q category with
      ⟨hnil', he'⟩ | ⟨hcons', s', ok', he'⟩
  · rw [he, he']
    simp only [Pass.view, Registry.filter_record, if_true, hmemory, hregistry, hrecords, hevents,
      hids]
  · exact absurd (hkeys ▸ hnil) hcons'
  · exact absurd (hkeys ▸ hnil') hcons
  · rw [he, he'] at hanswers ⊢
    obtain rfl : ok = ok' := hanswers.last hevents rfl rfl
    cases ok <;>
      simp [Pass.view, Registry.filter_record, hmemory, hregistry, hrecords, hevents, hids, hkeys]

theorem foldl_announce_view (categories : List Category) {p : Pass σ} {q : Pass τ}
    (h : p.view host = q.view host)
    (hanswers : AnswersAgree host (categories.foldl (announce plan sink host snapshot) p).events
      (categories.foldl (announce plan sink' host snapshot) q).events) :
    (categories.foldl (announce plan sink host snapshot) p).view host =
      (categories.foldl (announce plan sink' host snapshot) q).view host := by
  induction categories generalizing p q with
  | nil => exact h
  | cons category rest ih =>
      refine ih (announce_view plan sink sink' host snapshot h category ?_) hanswers
      exact hanswers.of_grow (foldl_announce_events_grow plan sink host snapshot rest _)
        (foldl_announce_events_grow plan sink' host snapshot rest _)

end Announce

section Visit

variable (plan : Plan) (sink : Publish.Sink σ) (sink' : Publish.Sink τ) (input : Input)

theorem visit_view_of_ne {other : String} (p : Pass σ) (answer : Host × Command.Reply)
    (h : answer.1.name ≠ other) : (visit plan sink input p answer).view other = p.view other := by
  have hoffer : (offer plan sink input p answer).view other = p.view other := by
    rw [offer, foldl_announce_view_of_ne plan sink answer.1.name _ h]
    simp only [Pass.view, sample_memory_of_ne plan input.start answer.1.name answer.2 p.sampler h]
  obtain ⟨s, ok, he⟩ := visit_eq plan sink input p answer
  rw [he, ← hoffer]
  simp [Pass.view, Event.host, recordOf, h]

theorem visit_view {input' : Input} (hstart : input.start = input'.start)
    (htime : input.timestamp = input'.timestamp) {p : Pass σ} {q : Pass τ}
    (answer : Host × Command.Reply) (h : p.view answer.1.name = q.view answer.1.name)
    (hanswers : AnswersAgree answer.1.name (visit plan sink input p answer).events
      (visit plan sink' input' q answer).events) :
    (visit plan sink input p answer).view answer.1.name =
      (visit plan sink' input' q answer).view answer.1.name := by
  obtain ⟨hfst, hsnd⟩ := sample_congr plan input.start answer.1.name answer.2
    (congrArg HostPass.memory h : p.sampler.memory answer.1.name = q.sampler.memory answer.1.name)
  have hshown : shown plan input p.sampler answer = shown plan input' q.sampler answer := by
    rw [shown, shown, hfst, hstart]
  obtain ⟨s, ok, he⟩ := visit_eq plan sink input p answer
  obtain ⟨s', ok', he'⟩ := visit_eq plan sink' input' q answer
  have hoffer : (offer plan sink input p answer).view answer.1.name =
      (offer plan sink' input' q answer).view answer.1.name := by
    rw [he, he'] at hanswers
    have hgrow := hanswers.of_grow (List.prefix_append _ _) (List.prefix_append _ _)
    rw [offer, offer, ← hshown] at hgrow ⊢
    apply foldl_announce_view plan sink sink' answer.1.name _ _ _ hgrow
    simp only [Pass.view, HostPass.mk.injEq] at h ⊢
    exact ⟨hstart ▸ hsnd, h.2⟩
  rw [he, he'] at hanswers ⊢
  simp only [Pass.view, HostPass.mk.injEq] at hoffer ⊢
  obtain ⟨hmemory, hregistry, hrecords, hevents⟩ := hoffer
  obtain rfl : ok = ok' := hanswers.last hevents rfl rfl
  refine ⟨hmemory, hregistry, ?_, ?_⟩
  · rw [List.filter_append, List.filter_append, hrecords, hshown, htime]
  · rw [List.filter_append, List.filter_append, hevents, hshown]

end Visit

-- Two ticks that differ only in what one host answers, and in how far saving gets.
structure Input.AgreeOff (changed : String) (input input' : Input) : Prop where
  start : input.start = input'.start
  timestamp : input.timestamp = input'.timestamp
  answers : List.Forall₂ (fun answer answer' => answer.1 = answer'.1 ∧
    (answer.1.name ≠ changed → answer.2 = answer'.2)) input.answers input'.answers

section Run

variable (plan : Plan) (sink : Publish.Sink σ) (sink' : Publish.Sink τ)
  {changed host : String} {input input' : Input}

theorem foldl_visit_view (hstart : input.start = input'.start)
    (htime : input.timestamp = input'.timestamp) (hhost : host ≠ changed)
    {answers answers' : List (Host × Command.Reply)}
    (hsame : List.Forall₂ (fun answer answer' => answer.1 = answer'.1 ∧
      (answer.1.name ≠ changed → answer.2 = answer'.2)) answers answers')
    {p : Pass σ} {q : Pass τ} (h : p.view host = q.view host)
    (hanswers : AnswersAgree host (answers.foldl (visit plan sink input) p).events
      (answers'.foldl (visit plan sink' input') q).events) :
    (answers.foldl (visit plan sink input) p).view host =
      (answers'.foldl (visit plan sink' input') q).view host := by
  induction hsame generalizing p q with
  | nil => exact h
  | @cons answer answer' rest rest' hanswer _ ih =>
      refine ih ?_ hanswers
      have hgrow := hanswers.of_grow (foldl_visit_events_grow plan sink input rest _)
        (foldl_visit_events_grow plan sink' input' rest' _)
      by_cases hname : answer.1.name = host
      · subst hname
        obtain rfl : answer = answer' := Prod.ext hanswer.1 (hanswer.2 hhost)
        exact visit_view plan sink sink' input hstart htime answer h hgrow
      · rw [visit_view_of_ne plan sink input p answer hname,
          visit_view_of_ne plan sink' input' q answer' (hanswer.1 ▸ hname), h]

theorem tick_view (hinput : input.AgreeOff changed input') (hhost : host ≠ changed)
    {s : State σ} {s' : State τ} (h : s.view host = s'.view host)
    (hanswers : AnswersAgree host (tick plan sink input s).1.events
      (tick plan sink' input' s').1.events) :
    (tick plan sink input s).1.view host = (tick plan sink' input' s').1.view host ∧
      (tick plan sink input s).2.view host = (tick plan sink' input' s').2.view host := by
  simp only [State.view, HostState.mk.injEq] at h
  obtain ⟨hmemory, hregistry, hrecord⟩ := h
  have hpass : (pass plan sink input s).view host = (pass plan sink' input' s').view host := by
    apply foldl_visit_view plan sink sink' hinput.start hinput.timestamp hhost hinput.answers _
      hanswers
    simp only [Pass.view, hmemory, hregistry, List.filter_nil]
  simp only [Pass.view, HostPass.mk.injEq] at hpass
  obtain ⟨hmemory', hregistry', hrecords', hevents'⟩ := hpass
  constructor
  · simp only [Tick.view, tick_records, tick_events, hrecords', hevents']
  · simp only [State.view, tick_sampler, tick_registry, tick_store, Store.get?_update, hmemory',
      hregistry', hrecords', hrecord]

-- What one host answers reaches no other host: neither its records, calls and
-- payloads nor what is remembered, announced and stored for it. The two sinks may
-- be of any kind as long as they answer the calls for the others alike.
theorem history_agree_off {inputs inputs' : List Input}
    (hinputs : List.Forall₂ (Input.AgreeOff changed) inputs inputs')
    {s : State σ} {s' : State τ} (hstart : ∀ host ≠ changed, s.view host = s'.view host)
    (hanswers : List.Forall₂ (fun after after' => ∀ host ≠ changed,
        AnswersAgree host after.1.events after'.1.events)
      (history plan sink inputs s) (history plan sink' inputs' s')) :
    List.Forall₂ (fun after after' => ∀ host ≠ changed,
        after.1.view host = after'.1.view host ∧ after.2.view host = after'.2.view host)
      (history plan sink inputs s) (history plan sink' inputs' s') := by
  induction hinputs generalizing s s' with
  | nil => exact .nil
  | @cons input input' rest rest' hinput _ ih =>
      simp only [history] at hanswers ⊢
      obtain ⟨hfirst, hrest⟩ := List.forall₂_cons.mp hanswers
      have htick := fun host (hhost : host ≠ changed) =>
        tick_view plan sink sink' hinput hhost (hstart host hhost) (hfirst host hhost)
      exact .cons htick (ih (fun host hhost => (htick host hhost).2) hrest)

-- Two ticks of two hosts, of which the second one replies as told.
def twoHosts (reply : Command.Reply) : List Input :=
  let answers (output : String) : List (Host × Command.Reply) :=
    [(⟨"web", "10.0.0.1", 22, "root", none, none⟩, ⟨40, .ok ⟨output, "", some 0⟩⟩),
     (⟨"db", "10.0.0.2", 22, "root", none, none⟩, reply)]
  [⟨0, 1700000000000, answers "\x7b\"rx\":1000,\"tx\":0\x7d", none⟩,
   ⟨30000, 1700000030000, answers "\x7b\"rx\":3000,\"tx\":0\x7d", none⟩]

def logged (reply : Command.Reply) : List (Tick × State (List Publish.LogLine)) :=
  history ⟨20000, "stats", ["cpu"]⟩ Publish.logSink (twoHosts reply)
    (State.start [] Store.inMemory [] (Stream.Channel.ofCapacity 1))

theorem history_agree_off_twoHosts :
    List.Forall₂ (fun after after' => ∀ host ≠ "db",
        after.1.view host = after'.1.view host ∧ after.2.view host = after'.2.view host)
      (logged ⟨5, .error (.connection "refused")⟩)
      (logged ⟨700, .ok ⟨"\x7b\"containers\":3\x7d", "", some 0⟩⟩) := by
  have hsame : ∀ (start : Nat) (timestamp : Int) (web : Host × Command.Reply) (db : Host)
      (reply reply' : Command.Reply), db.name = "db" → Input.AgreeOff "db"
        ⟨start, timestamp, [web, (db, reply)], none⟩
        ⟨start, timestamp, [web, (db, reply')], none⟩ :=
    fun _ _ _ _ _ _ hname =>
      ⟨rfl, rfl, .cons ⟨rfl, fun _ => rfl⟩ (.cons ⟨rfl, fun hne => absurd hname hne⟩ .nil)⟩
  apply history_agree_off
  · exact .cons (hsame _ _ _ _ _ _ rfl) (.cons (hsame _ _ _ _ _ _ rfl) .nil)
  · exact fun _ _ => rfl
  · refine .cons (fun host _ => answersAgree_of_taken ?_ ?_)
      (.cons (fun host _ => answersAgree_of_taken ?_ ?_) .nil) <;> decide +kernel

end Run

end HostTelemetry.Poll
