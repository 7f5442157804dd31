import HostTelemetry.Proofs.Poll.History

namespace HostTelemetry.Poll

open Publish (succeeded)

variable {σ : Type}

-- The call to the sink that an event is about.
def Event.perform (sink : Publish.Sink σ) (s : σ) : Event → Except String Unit × σ
  | .announce host category keys _ => sink.announce host category keys s
  | .publish host payload _ => sink.publish host payload s

-- The calls of these events, in their order, lead from one state of the sink to the
-- other, and each was answered as its event tells.
inductive Replays (sink : Publish.Sink σ) (start : σ) : List Event → σ → Prop
  | nil : Replays sink start [] start
  | concat {events : List Event} {s : σ} (h : Replays sink start events s) (event : Event)
      (answered : event.taken = succeeded (event.perform sink s).1) :
      Replays sink start (events ++ [event]) (event.perform sink s).2

variable {sink : Publish.Sink σ} {start : σ}

theorem Replays.append {past events : List Event} {s after : σ} (hpast : Replays sink start past s)
    (h : Replays sink s events after) : Replays sink start (past ++ events) after := by
  induction h with
  | nil => rwa [List.append_nil]
  | concat _ event answered ih =>
      rw [← List.append_assoc]
      exact ih.concat event answered

variable (plan : Plan)

theorem Replays.announce (host : String) (snapshot : Snapshot) {p : Pass σ}
    (h : Replays sink start p.events p.sink) (category : Category) :
    Replays sink start (announce plan sink host snapshot p category).events
      (announce plan sink host snapshot p category).sink := by
  simp only [Poll.announce]
  split
  · exact h
  · exact h.concat (.announce host category _ _) rfl

theorem Replays.foldl_announce (host : String) (snapshot : Snapshot) (categories : List Category)
    {p : Pass σ} (h : Replays sink start p.events p.sink) :
    Replays sink start (categories.foldl (Poll.announce plan sink host snapshot) p).events
      (categories.foldl (Poll.announce plan sink host snapshot) p).sink := by
  induction categories generalizing p with
  | nil => exact h
  | cons category rest ih => exact ih (h.announce plan host snapshot category)

theorem Replays.visit (input : Input) {p : Pass σ} (h : Replays sink start p.events p.sink)
    (answer : Host × Command.Reply) :
    Replays sink start (visit plan sink input p answer).events
      (visit plan sink input p answer).sink := by
  have hoffer : Replays sink start (offer plan sink input p answer).events
      (offer plan sink input p answer).sink :=
    foldl_announce plan answer.1.name _ _
      (p := { p with sampler := (sample plan input.start p.sampler answer.1.name answer.2).2 }) h
  exact hoffer.concat (.publish answer.1.name
    ((shown plan input p.sampler answer).1.values.without plan.disabled) _) rfl

-- The sink changes by the calls of a tick and by nothing else.
theorem replays_tick (sink : Publish.Sink σ) (input : Input) (s : State σ) :
    Replays sink s.sink (tick plan sink input s).1.events (tick plan sink input s).2.sink := by
  have hstart : Replays sink s.sink (⟨s.sampler, s.registry, s.sink, [], []⟩ : Pass σ).events
      (⟨s.sampler, s.registry, s.sink, [], []⟩ : Pass σ).sink := .nil
  change Replays sink s.sink (pass plan sink input s).events (pass plan sink input s).sink
  unfold pass
  generalize (⟨s.sampler, s.registry, s.sink, [], []⟩ : Pass σ) = p at hstart
  induction input.answers generalizing p with
  | nil => exact hstart
  | cons answer rest ih => exact ih _ (hstart.visit plan input answer)

theorem replays_history (inputs : List Input) (s : State σ) {n : Nat} {t : Tick}
    {after : State σ} (hn : (history plan sink inputs s)[n]? = some (t, after)) :
    Replays sink s.sink (eventsOf ((history plan sink inputs s).take (n + 1))) after.sink := by
  induction inputs generalizing s n with
  | nil => simp [history] at hn
  | cons input rest ih =>
      have htick := replays_tick plan sink input s
      cases n with
      | zero =>
          simp only [history, List.getElem?_cons_zero, Option.some.injEq] at hn
          rw [hn] at htick
          simpa [history, eventsOf, hn] using htick
      | succ n =>
          simp only [history, List.getElem?_cons_succ] at hn
          simpa [history, eventsOf] using htick.append (ih _ hn)

end HostTelemetry.Poll
