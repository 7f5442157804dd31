import HostTelemetry.Poll.Tick

namespace HostTelemetry.Poll

variable {σ : Type}

def Event.host : Event → String
  | .announce host _ _ _ => host
  | .publish host _ _ => host

-- Whether the sink took the call.
def Event.taken : Event → Bool
  | .announce _ _ _ ok => ok
  | .publish _ _ ok => ok

-- A run of ticks: what each of them produced, and the state it left.
def history (plan : Plan) (sink : Publish.Sink σ) :
    List Input → State σ → List (Tick × State σ)
  | [], _ => []
  | input :: rest, s =>
      let result := tick plan sink input s
      result :: history plan sink rest result.2

def eventsOf (run : List (Tick × State σ)) : List Event :=
  run.flatMap fun result => result.1.events

@[simp] theorem tick_events (plan : Plan) (sink : Publish.Sink σ) (input : Input) (s : State σ) :
    (tick plan sink input s).1.events = (pass plan sink input s).events := rfl

@[simp] theorem tick_records (plan : Plan) (sink : Publish.Sink σ) (input : Input)
    (s : State σ) :
    (tick plan sink input s).1.report.hosts = (pass plan sink input s).records := rfl

@[simp] theorem tick_registry (plan : Plan) (sink : Publish.Sink σ) (input : Input)
    (s : State σ) :
    (tick plan sink input s).2.registry = (pass plan sink input s).registry := rfl

@[simp] theorem tick_sampler (plan : Plan) (sink : Publish.Sink σ) (input : Input)
    (s : State σ) :
    (tick plan sink input s).2.sampler = (pass plan sink input s).sampler := rfl

@[simp] theorem tick_store (plan : Plan) (sink : Publish.Sink σ) (input : Input) (s : State σ) :
    (tick plan sink input s).2.store = s.store.update (pass plan sink input s).records := rfl

section Announce

variable (plan : Plan) (sink : Publish.Sink σ) (host : String) (snapshot : Snapshot)

-- The identifiers of a category that an announcement is about, and their keys.
def freshIds (p : Pass σ) (category : Category) : List String :=
  p.registry.peek host category (snapshot.ids category)

def freshKeys (p : Pass σ) (category : Category) : List String :=
  enabledKeys plan category (freshIds host snapshot p category)

-- Without keys the identifiers are noted at once; otherwise they are noted if the
-- sink takes the call.
theorem announce_cases (p : Pass σ) (category : Category) :
    (freshKeys plan host snapshot p category = [] ∧
      announce plan sink host snapshot p category =
        { p with
          registry := p.registry.record host category (freshIds host snapshot p category) }) ∨
    (freshKeys plan host snapshot p category ≠ [] ∧ ∃ s ok,
      announce plan sink host snapshot p category =
        { p with
          sink := s
          registry :=
            if ok then p.registry.record host category (freshIds host snapshot p category)
            else p.registry
          events := p.events ++
            [.announce host category (freshKeys plan host snapshot p category) ok] }) := by
  simp only [announce, freshKeys, freshIds, List.isEmpty_iff]
  split
  · next hempty => exact .inl ⟨hempty, rfl⟩
  · next hkeys => exact .inr ⟨hkeys, _, _, rfl⟩

theorem announce_events_grow (p : Pass σ) (category : Category) :
    p.events <+: (announce plan sink host snapshot p category).events := by
  rcases announce_cases plan sink host snapshot p category with
    ⟨-, h⟩ | ⟨-, s, ok, h⟩
  · simp only [h, List.prefix_rfl]
  · simp only [h, List.prefix_append]

theorem foldl_announce_events_grow (categories : List Category) (p : Pass σ) :
    p.events <+: (categories.foldl (announce plan sink host snapshot) p).events := by
  induction categories generalizing p with
  | nil => exact List.prefix_rfl
  | cons category rest ih =>
      exact (announce_events_grow plan sink host snapshot p category).trans (ih _)

end Announce

section Visit

variable (plan : Plan) (sink : Publish.Sink σ) (input : Input)

-- The snapshot that is published for a host, and why it is only a fallback.
def shown (s : Sampler) (answer : Host × Command.Reply) : Snapshot × Option SampleFault :=
  settle (sample plan input.start s answer.1.name answer.2).1

-- A visit up to its announcements.
def offer (p : Pass σ) (answer : Host × Command.Reply) : Pass σ :=
  (shownCategories (shown plan input p.sampler answer).2.isNone).foldl
    (announce plan sink answer.1.name (shown plan input p.sampler answer).1)
    { p with sampler := (sample plan input.start p.sampler answer.1.name answer.2).2 }

theorem visit_eq (p : Pass σ) (answer : Host × Command.Reply) : ∃ s ok,
    visit plan sink input p answer =
      { offer plan sink input p answer with
        sink := s
        records := (offer plan sink input p answer).records ++
          [recordOf answer.1.name input.timestamp (shown plan input p.sampler answer).1
            (shown plan input p.sampler answer).2]
        events := (offer plan sink input p answer).events ++
          [.publish answer.1.name
            ((shown plan input p.sampler answer).1.values.without plan.disabled) ok] } :=
  ⟨_, _, rfl⟩

theorem offer_events_grow (p : Pass σ) (answer : Host × Command.Reply) :
    p.events <+: (offer plan sink input p answer).events :=
  foldl_announce_events_grow plan sink _ _ _
    { p with sampler := (sample plan input.start p.sampler answer.1.name answer.2).2 }

theorem visit_events_grow (p : Pass σ) (answer : Host × Command.Reply) :
    p.events <+: (visit plan sink input p answer).events := by
  obtain ⟨s, ok, h⟩ := visit_eq plan sink input p answer
  rw [h]
  exact (offer_events_grow plan sink input p answer).trans (List.prefix_append _ _)

theorem foldl_visit_events_grow (answers : List (Host × Command.Reply)) (p : Pass σ) :
    p.events <+: (answers.foldl (visit plan sink input) p).events := by
  induction answers generalizing p with
  | nil => exact List.prefix_rfl
  | cons answer rest ih => exact (visit_events_grow plan sink input p answer).trans (ih _)

end Visit

end HostTelemetry.Poll
