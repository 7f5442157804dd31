import HostTelemetry.Proofs.Poll.Visits

namespace HostTelemetry.Poll

variable {σ : Type}

-- What an event may be about: one of these hosts and, where it announces keys,
-- keys that have the form of their category.
def Event.About (hosts : List String) : Event → Prop
  | .announce host category keys _ => host ∈ hosts ∧ ∀ key ∈ keys, category.HasForm key
  | .publish host _ _ => host ∈ hosts

-- A run is about no host that was not asked, and each key it announces tells its
-- category, whatever the hosts print.
theorem history_about (plan : Plan) (sink : Publish.Sink σ) {hosts : List String}
    {inputs : List Input}
    (hasked : ∀ input ∈ inputs, ∀ answer ∈ input.answers, answer.1.name ∈ hosts) (s : State σ) :
    ∀ event ∈ eventsOf (history plan sink inputs s), event.About hosts := by
  intro event hevent
  obtain ⟨input, hinput, hfrom⟩ := history_event_from hevent
  cases event with
  | announce host category keys ok =>
      obtain ⟨answer, hanswer, rfl, sampler, hkeys⟩ := announce_of_from hfrom
      refine ⟨hasked input hinput answer hanswer, fun key hk => ?_⟩
      obtain ⟨id, hid, hk⟩ := hkeys key hk
      have hwell := shown_wellKeyed plan input sampler answer
      exact Category.hasForm_of_mem (hwell.identifies category id hid) hk
  | publish host payload ok =>
      obtain ⟨answer, hanswer, rfl⟩ := publish_of_from hfrom
      exact hasked input hinput answer hanswer

theorem mem_announcedKeys {host key : String} {events : List Event}
    (h : key ∈ announcedKeys host events) :
    ∃ category keys, Event.announce host category keys true ∈ events ∧ key ∈ keys := by
  obtain ⟨event, he, hk⟩ := List.mem_flatMap.mp h
  cases event with
  | publish name payload ok => cases hk
  | announce name category keys ok =>
      cases ok with
      | false => cases hk
      | true =>
          by_cases hname : name = host
          · subst hname
            exact ⟨category, keys, he, by simpa using hk⟩
          · simp [hname] at hk

end HostTelemetry.Poll
