import HostTelemetry.Proofs.Poll.Discovery
import Mathlib.Data.List.Forall2

namespace HostTelemetry.Poll

variable {σ : Type}

-- An announcement that a visit may come to make: enabled keys of identifiers that
-- the host shows in one of these categories.
def Event.Offers (plan : Plan) (host : String) (snapshot : Snapshot)
    (categories : List Category) : Event → Prop
  | .announce name category keys _ => name = host ∧ category ∈ categories ∧
      ∃ ids ⊆ snapshot.ids category, keys = enabledKeys plan category ids
  | .publish .. => False

-- What one visit hands to the sink: its announcements, then the payload.
def Visited (plan : Plan) (host : String) (shown : Snapshot × Option SampleFault)
    (segment : List Event) : Prop :=
  ∃ offers ok, segment = offers ++ [.publish host (shown.1.values.without plan.disabled) ok] ∧
    ∀ event ∈ offers, event.Offers plan host shown.1 (shownCategories shown.2.isNone)

theorem Event.Offers.mono {plan : Plan} {host : String} {snapshot : Snapshot}
    {categories more : List Category} {event : Event}
    (h : event.Offers plan host snapshot categories) (hsub : categories ⊆ more) :
    event.Offers plan host snapshot more := by
  cases event with
  | announce name category keys ok => exact ⟨h.1, hsub h.2.1, h.2.2⟩
  | publish => cases h

section Announce

variable (plan : Plan) (sink : Publish.Sink σ) (host : String) (snapshot : Snapshot)

theorem announce_segment (p : Pass σ) (category : Category) :
    (announce plan sink host snapshot p category).sampler = p.sampler ∧
    (announce plan sink host snapshot p category).records = p.records ∧
    ∃ offers, (announce plan sink host snapshot p category).events = p.events ++ offers ∧
      ∀ event ∈ offers, event.Offers plan host snapshot [category] := by
  rcases announce_cases plan sink host snapshot p category with ⟨-, he⟩ | ⟨-, s, ok, he⟩ <;>
    rw [he]
  · exact ⟨rfl, rfl, [], (List.append_nil _).symm, fun _ hnone => by cases hnone⟩
  · refine ⟨rfl, rfl, _, rfl, fun event hevent => ?_⟩
    rw [List.mem_singleton.mp hevent]
    exact ⟨rfl, List.mem_singleton.mpr rfl, _, fun id hid => (Registry.mem_peek.mp hid).1, rfl⟩

theorem foldl_announce_segment (categories : List Category) (p : Pass σ) :
    (categories.foldl (announce plan sink host snapshot) p).sampler = p.sampler ∧
    (categories.foldl (announce plan sink host snapshot) p).records = p.records ∧
    ∃ offers, (categories.foldl (announce plan sink host snapshot) p).events =
        p.events ++ offers ∧
      ∀ event ∈ offers, event.Offers plan host snapshot categories := by
  induction categories generalizing p with
  | nil => exact ⟨rfl, rfl, [], (List.append_nil _).symm, fun _ hnone => by cases hnone⟩
  | cons category rest ih =>
      obtain ⟨hsampler, hrecords, first, hfirst, hoffers⟩ :=
        announce_segment plan sink host snapshot p category
      obtain ⟨hsampler', hrecords', later, hlater, hoffers'⟩ :=
        ih (announce plan sink host snapshot p category)
      refine ⟨hsampler'.trans hsampler, hrecords'.trans hrecords, first ++ later, ?_, ?_⟩
      · rw [List.foldl_cons, hlater, hfirst, List.append_assoc]
      · intro event hevent
        rcases List.mem_append.mp hevent with he | he
        · exact (hoffers event he).mono (by simp)
        · exact (hoffers' event he).mono (List.subset_cons_self _ _)

end Announce

section Visit

variable (plan : Plan) (sink : Publish.Sink σ) (input : Input)

-- The record of a host for which a pass shows a snapshot.
def recordFor (answer : Host × Command.Reply) (shown : Snapshot × Option SampleFault) : Record :=
  recordOf answer.1.name input.timestamp shown.1 shown.2

theorem visit_segment (p : Pass σ) (answer : Host × Command.Reply) :
    (visit plan sink input p answer).sampler =
        (sample plan input.start p.sampler answer.1.name answer.2).2 ∧
    (visit plan sink input p answer).records =
        p.records ++ [recordFor input answer (shown plan input p.sampler answer)] ∧
    ∃ segment, (visit plan sink input p answer).events = p.events ++ segment ∧
      Visited plan answer.1.name (shown plan input p.sampler answer) segment := by
  obtain ⟨hsampler, hrecords, offers, hevents, hoffers⟩ :=
    foldl_announce_segment plan sink answer.1.name (shown plan input p.sampler answer).1
      (shownCategories (shown plan input p.sampler answer).2.isNone)
      { p with sampler := (sample plan input.start p.sampler answer.1.name answer.2).2 }
  obtain ⟨s, ok, he⟩ := visit_eq plan sink input p answer
  rw [he]
  refine ⟨hsampler, ?_, _, ?_, offers, ok, rfl, hoffers⟩
  · exact congrArg (· ++ [recordFor input answer (shown plan input p.sampler answer)]) hrecords
  · exact (congrArg (· ++ _) hevents).trans (List.append_assoc _ _ _)

-- The visits of a pass, each with its record and its segment of the events. What is
-- wanted to be known of the sampler at an answer has to be kept by the visits before.
theorem foldl_visit_segments {Known : Sampler → Host × Command.Reply → Prop}
    {answers : List (Host × Command.Reply)}
    (hkept : answers.Pairwise fun answer later => ∀ s, Known s later →
      Known (sample plan input.start s answer.1.name answer.2).2 later)
    {p : Pass σ} (hstart : ∀ answer ∈ answers, Known p.sampler answer) :
    ∃ visits : List (Record × List Event),
      (answers.foldl (visit plan sink input) p).records = p.records ++ visits.map Prod.fst ∧
      (answers.foldl (visit plan sink input) p).events =
        p.events ++ (visits.map Prod.snd).flatten ∧
      List.Forall₂ (fun answer visit => ∃ s, Known s answer ∧
        visit.1 = recordFor input answer (shown plan input s answer) ∧
        Visited plan answer.1.name (shown plan input s answer) visit.2) answers visits := by
  induction answers generalizing p with
  | nil => exact ⟨[], (List.append_nil _).symm, (List.append_nil _).symm, .nil⟩
  | cons answer rest ih =>
      obtain ⟨hlater, hrest⟩ := List.pairwise_cons.mp hkept
      obtain ⟨hsampler, hrecords, segment, hevents, hvisited⟩ :=
        visit_segment plan sink input p answer
      have hnext : ∀ later ∈ rest, Known (visit plan sink input p answer).sampler later := by
        intro later hmem
        rw [hsampler]
        exact hlater later hmem _ (hstart later (List.mem_cons_of_mem _ hmem))
      obtain ⟨visits, hrecords', hevents', hvisits⟩ := ih hrest hnext
      refine ⟨(recordFor input answer (shown plan input p.sampler answer), segment) :: visits,
        ?_, ?_, .cons ⟨p.sampler, hstart answer List.mem_cons_self, rfl, hvisited⟩ hvisits⟩
      · rw [List.foldl_cons, hrecords', hrecords, List.append_assoc]
        rfl
      · rw [List.foldl_cons, hevents', hevents, List.append_assoc]
        rfl

end Visit

theorem exists_of_forall₂_right {α β : Type} {R : α → β → Prop} {as : List α} {bs : List β}
    (h : List.Forall₂ R as bs) {b : β} (hb : b ∈ bs) : ∃ a ∈ as, R a b := by
  induction h with
  | nil => cases hb
  | cons hab _ ih =>
      rcases List.mem_cons.mp hb with rfl | hr
      · exact ⟨_, List.mem_cons_self, hab⟩
      · obtain ⟨a, ha, hab⟩ := ih hr
        exact ⟨a, List.mem_cons_of_mem _ ha, hab⟩

-- Where an event of a pass comes from.
inductive Event.From (plan : Plan) (input : Input) (event : Event) : Prop
  | intro {answer : Host × Command.Reply} {s : Sampler} {segment : List Event}
      (asked : answer ∈ input.answers)
      (visited : Visited plan answer.1.name (shown plan input s answer) segment)
      (mem : event ∈ segment)

-- The visits of a tick, whatever is known of the sampler at each of them.
theorem tick_visits (plan : Plan) (sink : Publish.Sink σ) (input : Input) (s : State σ) :
    ∃ visits : List (Record × List Event),
      (tick plan sink input s).1.report.hosts = visits.map Prod.fst ∧
      (tick plan sink input s).1.events = (visits.map Prod.snd).flatten ∧
      List.Forall₂ (fun answer visit => ∃ s, visit.1 = recordFor input answer (shown plan input s answer) ∧
        Visited plan answer.1.name (shown plan input s answer) visit.2) input.answers visits := by
  let Known : Sampler → Host × Command.Reply → Prop := fun _ _ => True
  have hkept : input.answers.Pairwise fun answer later => ∀ s, Known s later →
      Known (sample plan input.start s answer.1.name answer.2).2 later :=
    List.pairwise_of_forall fun _ _ _ _ => trivial
  obtain ⟨visits, hrecords, hevents, hvisits⟩ := foldl_visit_segments plan sink input hkept
    (p := ⟨s.sampler, s.registry, s.sink, [], []⟩) (fun _ _ => trivial)
  rw [List.nil_append] at hrecords hevents
  refine ⟨visits, hrecords, hevents, hvisits.imp ?_⟩
  rintro answer visit ⟨s, -, hvisit⟩
  exact ⟨s, hvisit⟩

theorem tick_event_from {plan : Plan} {sink : Publish.Sink σ} {input : Input} {s : State σ}
    {event : Event} (he : event ∈ (tick plan sink input s).1.events) : event.From plan input := by
  obtain ⟨visits, -, hevents, hvisits⟩ := tick_visits plan sink input s
  rw [hevents] at he
  obtain ⟨segment, hsegment, hmem⟩ := List.mem_flatten.mp he
  obtain ⟨⟨record, segment⟩, hvisit, rfl⟩ := List.mem_map.mp hsegment
  obtain ⟨answer, hasked, s, -, hvisited⟩ := exists_of_forall₂_right hvisits hvisit
  exact ⟨hasked, hvisited, hmem⟩

theorem tick_record_from {plan : Plan} {sink : Publish.Sink σ} {input : Input} {s : State σ}
    {record : Record} (hr : record ∈ (tick plan sink input s).1.report.hosts) :
    ∃ answer ∈ input.answers, ∃ s, record = recordFor input answer (shown plan input s answer) := by
  obtain ⟨visits, hrecords, -, hvisits⟩ := tick_visits plan sink input s
  rw [hrecords] at hr
  obtain ⟨⟨record, segment⟩, hvisit, rfl⟩ := List.mem_map.mp hr
  obtain ⟨answer, hasked, s, hrecord, -⟩ := exists_of_forall₂_right hvisits hvisit
  exact ⟨answer, hasked, s, hrecord⟩

-- Every event of a run was made by a visit of one of its ticks.
theorem history_event_from {plan : Plan} {sink : Publish.Sink σ} {inputs : List Input}
    {s : State σ} {event : Event} (he : event ∈ eventsOf (history plan sink inputs s)) :
    ∃ input ∈ inputs, event.From plan input := by
  induction inputs generalizing s with
  | nil => cases he
  | cons input rest ih =>
      rw [history, eventsOf, List.flatMap_cons] at he
      rcases List.mem_append.mp he with hnow | hlater
      · exact ⟨input, List.mem_cons_self, tick_event_from hnow⟩
      · obtain ⟨later, hmem, hfrom⟩ := ih hlater
        exact ⟨later, List.mem_cons_of_mem _ hmem, hfrom⟩

theorem announce_of_from {plan : Plan} {input : Input} {host : String} {category : Category}
    {keys : List String} {ok : Bool}
    (h : (Event.announce host category keys ok).From plan input) :
    ∃ answer ∈ input.answers, answer.1.name = host ∧ ∃ s, ∀ key ∈ keys,
      ∃ id ∈ (shown plan input s answer).1.ids category, key ∈ category.entityKeys id := by
  obtain @⟨answer, s, segment, hasked, ⟨offers, taken, rfl, hoffers⟩, hmem⟩ := h
  rcases List.mem_append.mp hmem with hoffer | hpublish
  · obtain ⟨rfl, -, ids, hids, rfl⟩ := hoffers _ hoffer
    refine ⟨answer, hasked, rfl, s, fun key hk => ?_⟩
    obtain ⟨⟨id, hid, hk⟩, -⟩ := mem_enabledKeys.mp hk
    exact ⟨id, hids hid, hk⟩
  · cases List.mem_singleton.mp hpublish

theorem publish_of_from {plan : Plan} {input : Input} {host : String} {payload : Keyed Json}
    {ok : Bool} (h : (Event.publish host payload ok).From plan input) :
    ∃ answer ∈ input.answers, answer.1.name = host := by
  obtain @⟨answer, s, segment, hasked, ⟨offers, taken, rfl, hoffers⟩, hmem⟩ := h
  rcases List.mem_append.mp hmem with hoffer | hpublish
  · cases hoffers _ hoffer
  · cases List.mem_singleton.mp hpublish
    exact ⟨answer, hasked, rfl⟩

end HostTelemetry.Poll
