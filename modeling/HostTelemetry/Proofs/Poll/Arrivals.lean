import HostTelemetry.Proofs.Poll.Outcome

namespace HostTelemetry.Poll

variable {σ : Type}

-- How long the slowest of the hosts takes; none takes longer than the time allowed.
-- Without hosts it is no time.
def Slowest (plan : Plan) (answers : List (Host × Command.Reply)) (d : Nat) : Prop :=
  (∀ answer ∈ answers, min answer.2.delay plan.timeout ≤ d) ∧
  (answers = [] ∧ d = 0 ∨ ∃ answer ∈ answers, d = min answer.2.delay plan.timeout)

theorem duration_slowest (plan : Plan) (answers : List (Host × Command.Reply)) :
    Slowest plan answers (duration plan answers) := by
  have hmax : (0 :: answers.map fun answer => answer.2.elapsed plan.timeout).max? =
      some (duration plan answers) := List.max?_cons'
  obtain ⟨hmem, hall⟩ := List.max?_eq_some_iff.mp hmax
  have hbound : ∀ answer ∈ answers, min answer.2.delay plan.timeout ≤ duration plan answers :=
    fun answer h => hall _ (List.mem_cons_of_mem _ (List.mem_map_of_mem h))
  refine ⟨hbound, ?_⟩
  rcases List.mem_cons.mp hmem with hzero | hattained
  · cases answers with
    | nil => exact .inl ⟨rfl, rfl⟩
    | cons answer rest =>
        have hfirst := hbound answer List.mem_cons_self
        exact .inr ⟨answer, List.mem_cons_self, by omega⟩
  · obtain ⟨answer, hanswer, he⟩ := List.mem_map.mp hattained
    exact .inr ⟨answer, hanswer, he.symm⟩

-- The hosts of a tick one after the other, from what is remembered before the first to
-- what is remembered after the last, with the record of each. What came in time is read
-- at the time of its own arrival; no other host's delay goes into that time.
inductive Stamped (plan : Plan) (start : Nat) :
    Sampler → List (Host × Command.Reply) → List Record → Sampler → Prop
  | done (s : Sampler) : Stamped plan start s [] [] s
  | arrived {s s' : Sampler} {answer : Host × Command.Reply}
      {rest : List (Host × Command.Reply)} {record : Record} {records : List Record}
      {stdout : String} (inTime : answer.2.delay ≤ plan.timeout)
      (text : answer.2.result.bind Command.Output.text = .ok stdout)
      (name : record.name = answer.1.name)
      (tells : Tells record
        (s.normalize answer.1.name stdout (Time.seconds (start + answer.2.delay))).1)
      (later : Stamped plan start
        (s.normalize answer.1.name stdout (Time.seconds (start + answer.2.delay))).2
        rest records s') :
      Stamped plan start s (answer :: rest) (record :: records) s'
  | failed {s s' : Sampler} {answer : Host × Command.Reply}
      {rest : List (Host × Command.Reply)} {record : Record} {records : List Record}
      {fault : SampleFault} (inTime : answer.2.delay ≤ plan.timeout)
      (text : answer.2.result.bind Command.Output.text = .error fault)
      (name : record.name = answer.1.name) (tells : Tells record (.error fault))
      (later : Stamped plan start s rest records s') :
      Stamped plan start s (answer :: rest) (record :: records) s'
  | late {s s' : Sampler} {answer : Host × Command.Reply}
      {rest : List (Host × Command.Reply)} {record : Record} {records : List Record}
      (late : plan.timeout < answer.2.delay) (name : record.name = answer.1.name)
      (tells : Tells record (.error (Command.timedOut plan.timeout)))
      (later : Stamped plan start s rest records s') :
      Stamped plan start s (answer :: rest) (record :: records) s'

section Tick

variable (plan : Plan) (sink : Publish.Sink σ) (input : Input)

theorem Stamped.cons (s : Sampler) (answer : Host × Command.Reply)
    {rest : List (Host × Command.Reply)} {records : List Record} {s' : Sampler}
    (later : Stamped plan input.start (sample plan input.start s answer.1.name answer.2).2
      rest records s') :
    Stamped plan input.start s (answer :: rest)
      (recordFor input answer (shown plan input s answer) :: records) s' := by
  have htells := recordFor_tells plan input s answer
  rw [outcome] at htells
  rcases Nat.lt_or_ge plan.timeout answer.2.delay with hlate | hinTime
  · rw [sample, Command.Reply.text_of_late hlate] at htells later
    exact .late hlate rfl htells later
  · rw [sample, Command.Reply.text_of_inTime hinTime] at htells later
    cases htext : answer.2.result.bind Command.Output.text with
    | error fault =>
        rw [htext] at htells later
        exact .failed hinTime htext rfl htells later
    | ok stdout =>
        rw [htext] at htells later
        exact .arrived hinTime htext rfl htells later

theorem foldl_visit_stamped (answers : List (Host × Command.Reply)) (p : Pass σ) :
    ∃ records, (answers.foldl (visit plan sink input) p).records = p.records ++ records ∧
      Stamped plan input.start p.sampler answers records
        (answers.foldl (visit plan sink input) p).sampler := by
  induction answers generalizing p with
  | nil => exact ⟨[], (List.append_nil _).symm, .done _⟩
  | cons answer rest ih =>
      obtain ⟨hsampler, hrecords, -⟩ := visit_segment plan sink input p answer
      obtain ⟨records, hlater, hstamped⟩ := ih (visit plan sink input p answer)
      rw [hsampler] at hstamped
      refine ⟨recordFor input answer (shown plan input p.sampler answer) :: records, ?_,
        .cons plan input p.sampler answer hstamped⟩
      rw [List.foldl_cons, hlater, hrecords, List.append_assoc]
      rfl

theorem tick_stamped (s : State σ) :
    Stamped plan input.start s.sampler input.answers (tick plan sink input s).1.report.hosts
      (tick plan sink input s).2.sampler := by
  obtain ⟨records, hrecords, hstamped⟩ :=
    foldl_visit_stamped plan sink input input.answers ⟨s.sampler, s.registry, s.sink, [], []⟩
  rw [tick_records, tick_sampler, pass, hrecords]
  exact hstamped

end Tick

end HostTelemetry.Poll
