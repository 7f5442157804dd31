import HostTelemetry.Proofs.Poll.Replay
import HostTelemetry.Proofs.Registry
import HostTelemetry.Proofs.Snapshot.Flattening

namespace HostTelemetry.Poll

variable {σ : Type}

-- The keys of the announcements for a host that the sink took.
def announcedKeys (host : String) (events : List Event) : List String :=
  events.flatMap fun
    | .announce name _ keys true => if name = host then keys else []
    | _ => []

-- What the registry and the announcements so far tell of each other. The keys that
-- were taken belong to known identifiers, which is why none of them comes again.
structure Ledger (plan : Plan) (r : Registry) (events : List Event) : Prop where
  known : ∀ {host category id}, r.isKnown host category id →
    ∀ key ∈ category.entityKeys id, key ∉ plan.disabled →
      ∃ keys, .announce host category keys true ∈ events ∧ key ∈ keys
  owned : ∀ {host key}, key ∈ announcedKeys host events →
    ∃ category id, r.isKnown host category id ∧ category.Identifies id ∧
      key ∈ category.entityKeys id
  once : ∀ host, (announcedKeys host events).Nodup
  enabled : ∀ {host category keys ok}, .announce host category keys ok ∈ events →
    keys ≠ [] ∧ ∀ key ∈ keys, key ∉ plan.disabled

theorem Ledger.empty (plan : Plan) : Ledger plan [] [] where
  known h := by cases h
  owned h := by cases h
  once _ := List.nodup_nil
  enabled h := by cases h

theorem mem_enabledKeys {plan : Plan} {category : Category} {ids : List String} {key : String} :
    key ∈ enabledKeys plan category ids ↔
      (∃ id ∈ ids, key ∈ category.entityKeys id) ∧ key ∉ plan.disabled := by
  simp [enabledKeys, List.mem_flatMap]

theorem announcedKeys_append (host : String) (first second : List Event) :
    announcedKeys host (first ++ second) =
      announcedKeys host first ++ announcedKeys host second :=
  List.flatMap_append

theorem announcedKeys_refused (host name : String) (category : Category) (keys : List String) :
    announcedKeys host [.announce name category keys false] = [] := rfl

theorem announcedKeys_publish (host name : String) (payload : Keyed Json) (ok : Bool) :
    announcedKeys host [.publish name payload ok] = [] := rfl

theorem announcedKeys_taken (host name : String) (category : Category) (keys : List String) :
    announcedKeys host [.announce name category keys true] = if name = host then keys else [] := by
  simp [announcedKeys]

section Ledger

variable {plan : Plan} {r : Registry} {events : List Event}

-- Identifiers whose keys are all disabled are noted without an announcement.
theorem Ledger.record_disabled (h : Ledger plan r events) {host : String} {category : Category}
    {ids : List String} (hkeys : enabledKeys plan category ids = []) :
    Ledger plan (r.record host category ids) events where
  known {other category' id} hknown key hk hd := by
    rcases Registry.isKnown_record.mp hknown with hold | ⟨rfl, rfl, hid⟩
    · exact h.known hold key hk hd
    · have hmem := mem_enabledKeys.mpr ⟨⟨id, hid, hk⟩, hd⟩
      rw [hkeys] at hmem
      cases hmem
  owned {other key} hk := by
    obtain ⟨category', id, hid, howner, hmem⟩ := h.owned hk
    exact ⟨category', id, Registry.isKnown_record.mpr (.inl hid), howner, hmem⟩
  once := h.once
  enabled := h.enabled

theorem Ledger.push_silent (h : Ledger plan r events) {event : Event}
    (hsilent : ∀ host, announcedKeys host [event] = [])
    (henabled : ∀ host category keys ok, event = .announce host category keys ok →
      keys ≠ [] ∧ ∀ key ∈ keys, key ∉ plan.disabled) :
    Ledger plan r (events ++ [event]) where
  known hid key hk hd := by
    obtain ⟨keys, he, hmem⟩ := h.known hid key hk hd
    exact ⟨keys, List.mem_append_left _ he, hmem⟩
  owned hk := by
    rw [announcedKeys_append, hsilent, List.append_nil] at hk
    exact h.owned hk
  once host := by
    rw [announcedKeys_append, hsilent, List.append_nil]
    exact h.once host
  enabled he := by
    rcases List.mem_append.mp he with he | he
    · exact h.enabled he
    · exact henabled _ _ _ _ (List.mem_singleton.mp he).symm

theorem Ledger.push_refused (h : Ledger plan r events) (host : String) {category : Category}
    {ids : List String} (hkeys : enabledKeys plan category ids ≠ []) :
    Ledger plan r (events ++ [.announce host category (enabledKeys plan category ids) false]) := by
  refine h.push_silent (fun _ => announcedKeys_refused _ _ _ _) ?_
  rintro _ _ _ _ ⟨⟩
  exact ⟨hkeys, fun key hk => (mem_enabledKeys.mp hk).2⟩

theorem Ledger.push_publish (h : Ledger plan r events) (host : String) (payload : Keyed Json)
    (ok : Bool) : Ledger plan r (events ++ [.publish host payload ok]) := by
  refine h.push_silent (fun _ => announcedKeys_publish _ _ _ _) ?_
  rintro _ _ _ _ ⟨⟩

-- An announcement of unknown identifiers brings no key that was taken before:
-- its owner would be known.
theorem Ledger.push_taken (h : Ledger plan r events) {host : String} {category : Category}
    {ids : List String} (hids : ids.Nodup) (howner : ∀ id ∈ ids, category.Identifies id)
    (hfresh : ∀ id ∈ ids, ¬r.isKnown host category id)
    (hkeys : enabledKeys plan category ids ≠ []) :
    Ledger plan (r.record host category ids)
      (events ++ [.announce host category (enabledKeys plan category ids) true]) where
  known {other category' id} hknown key hk hd := by
    rcases Registry.isKnown_record.mp hknown with hold | ⟨rfl, rfl, hid⟩
    · obtain ⟨keys, he, hmem⟩ := h.known hold key hk hd
      exact ⟨keys, List.mem_append_left _ he, hmem⟩
    · exact ⟨_, List.mem_append_right _ (List.mem_singleton.mpr rfl),
        mem_enabledKeys.mpr ⟨⟨id, hid, hk⟩, hd⟩⟩
  owned {other key} hk := by
    rw [announcedKeys_append, announcedKeys_taken, List.mem_append] at hk
    rcases hk with hk | hk
    · obtain ⟨category', id, hid, howner, hmem⟩ := h.owned hk
      exact ⟨category', id, Registry.isKnown_record.mpr (.inl hid), howner, hmem⟩
    · split at hk
      · next he =>
          obtain ⟨⟨id, hid, hmem⟩, -⟩ := mem_enabledKeys.mp hk
          exact ⟨category, id, Registry.isKnown_record.mpr (.inr ⟨he, rfl, hid⟩), howner id hid,
            hmem⟩
      · cases hk
  once other := by
    rw [announcedKeys_append, announcedKeys_taken]
    split
    · next he =>
        subst he
        refine (h.once host).append ((Category.nodup_flatMap_entityKeys hids).filter _) ?_
        intro key hold hnew
        obtain ⟨category', id', hid', howner', hmem'⟩ := h.owned hold
        obtain ⟨⟨id, hid, hmem⟩, -⟩ := mem_enabledKeys.mp hnew
        obtain ⟨rfl, rfl⟩ := Category.owner_unique howner' (howner id hid) hmem' hmem
        exact hfresh _ hid hid'
    · rw [List.append_nil]
      exact h.once other
  enabled he := by
    rcases List.mem_append.mp he with he | he
    · exact h.enabled he
    · cases List.mem_singleton.mp he
      exact ⟨hkeys, fun key hk => (mem_enabledKeys.mp hk).2⟩

end Ledger

-- A key is backed if it was announced before, or if the sink refused it in this tick.
def Backed (past now : List Event) (host key : String) : Prop :=
  (∃ category keys, .announce host category keys true ∈ past ++ now ∧ key ∈ keys) ∨
    ∃ category keys, .announce host category keys false ∈ now ∧ key ∈ keys

theorem Backed.mono {past now later : List Event} {host key : String}
    (h : Backed past now host key) (hgrow : now <+: later) : Backed past later host key := by
  rcases h with ⟨category, keys, he, hk⟩ | ⟨category, keys, he, hk⟩
  · exact .inl ⟨category, keys, (List.prefix_append_right_inj past).mpr hgrow |>.subset he, hk⟩
  · exact .inr ⟨category, keys, hgrow.subset he, hk⟩

-- Every key of a payload was backed when it was published, the two lists apart.
def PayloadsBacked (past now : List Event) : Prop :=
  ∀ before host payload ok rest, now = before ++ .publish host payload ok :: rest →
    ∀ key ∈ payload.keys, key ∉ Snapshot.listKeys → Backed past before host key

theorem PayloadsBacked.push {past now : List Event} (h : PayloadsBacked past now) {event : Event}
    (hevent : ∀ host payload ok, event = .publish host payload ok →
      ∀ key ∈ payload.keys, key ∉ Snapshot.listKeys → Backed past now host key) :
    PayloadsBacked past (now ++ [event]) := by
  intro before host payload ok rest hsplit
  rcases List.eq_nil_or_concat rest with rfl | ⟨rest, last, rfl⟩
  · obtain ⟨rfl, he⟩ := List.append_inj' hsplit rfl
    exact hevent host payload ok (List.singleton_inj.mp he)
  · rw [List.concat_eq_append, ← List.cons_append, ← List.append_assoc] at hsplit
    exact h before host payload ok rest (List.append_inj' hsplit rfl).1

-- What holds after every step within a tick.
structure Sound (plan : Plan) (past : List Event) (p : Pass σ) : Prop where
  ledger : Ledger plan p.registry (past ++ p.events)
  payloads : PayloadsBacked past p.events

section Visit

variable {plan : Plan} (sink : Publish.Sink σ) {past : List Event} (host : String)
  {snapshot : Snapshot}

theorem Sound.announce {p : Pass σ} (h : Sound plan past p) (hwell : snapshot.WellKeyed)
    (category : Category) : Sound plan past (announce plan sink host snapshot p category) := by
  have hpayloads : ∀ keys ok,
      PayloadsBacked past (p.events ++ [.announce host category keys ok]) :=
    fun keys ok => h.payloads.push fun _ _ _ he => by cases he
  rcases announce_cases plan sink host snapshot p category with
    ⟨hkeys, he⟩ | ⟨hkeys, s, ok, he⟩ <;> rw [he]
  · exact ⟨h.ledger.record_disabled hkeys, h.payloads⟩
  · refine ⟨?_, hpayloads _ _⟩
    rw [← List.append_assoc]
    cases ok with
    | true =>
        apply h.ledger.push_taken (Registry.nodup_peek _ _ _ _) _ _ hkeys
        · exact fun id hid => hwell.identifies category id (Registry.mem_peek.mp hid).1
        · exact fun id hid => (Registry.mem_peek.mp hid).2
    | false => exact h.ledger.push_refused host hkeys

theorem Sound.foldl_announce (hwell : snapshot.WellKeyed) (categories : List Category)
    {p : Pass σ} (h : Sound plan past p) :
    Sound plan past (categories.foldl (Poll.announce plan sink host snapshot) p) := by
  induction categories generalizing p with
  | nil => exact h
  | cons category rest ih => exact ih (h.announce sink host hwell category)

-- After its announcement every enabled key of a category is backed.
theorem announce_backs {p : Pass σ} (h : Sound plan past p) {category : Category} {key : String}
    (hk : key ∈ snapshot.entityKeys category) (hd : key ∉ plan.disabled) :
    Backed past (announce plan sink host snapshot p category).events host key := by
  obtain ⟨id, hid, hk⟩ := Snapshot.mem_entityKeys.mp hk
  by_cases hknown : p.registry.isKnown host category id
  · obtain ⟨keys, he, hmem⟩ := h.ledger.known hknown key hk hd
    have hbacked : Backed past p.events host key := .inl ⟨category, keys, he, hmem⟩
    exact hbacked.mono (announce_events_grow plan sink host snapshot p category)
  · have hfresh : key ∈ freshKeys plan host snapshot p category :=
      mem_enabledKeys.mpr ⟨⟨id, Registry.mem_peek.mpr ⟨hid, hknown⟩, hk⟩, hd⟩
    rcases announce_cases plan sink host snapshot p category with
      ⟨hkeys, -⟩ | ⟨-, s, ok, he⟩
    · rw [hkeys] at hfresh
      cases hfresh
    · rw [he]
      cases ok with
      | true => exact .inl ⟨category, _, by simp, hfresh⟩
      | false => exact .inr ⟨category, _, by simp, hfresh⟩

theorem foldl_announce_backs (hwell : snapshot.WellKeyed) {categories : List Category}
    {p : Pass σ} (h : Sound plan past p) {category : Category} (hc : category ∈ categories)
    {key : String} (hk : key ∈ snapshot.entityKeys category) (hd : key ∉ plan.disabled) :
    Backed past (categories.foldl (announce plan sink host snapshot) p).events host key := by
  induction categories generalizing p with
  | nil => cases hc
  | cons first rest ih =>
      rcases List.mem_cons.mp hc with rfl | hr
      · exact (announce_backs sink host h hk hd).mono
          (foldl_announce_events_grow plan sink host snapshot rest _)
      · exact ih (h.announce sink host hwell first) hr

end Visit

theorem shown_wellKeyed (plan : Plan) (input : Input) (s : Sampler)
    (answer : Host × Command.Reply) : (shown plan input s answer).1.WellKeyed := by
  unfold shown
  cases h : (sample plan input.start s answer.1.name answer.2).1 with
  | error e => exact Snapshot.fallback_wellKeyed
  | ok snapshot =>
      unfold sample at h
      split at h
      · cases h
      · exact Snapshot.normalize_wellKeyed h

-- A fallback has nothing beside the metrics, so what is not announced is not
-- there either.
theorem mem_shownCategories {outcome : Except SampleFault Snapshot} {category : Category}
    {key : String} (hk : key ∈ (settle outcome).1.entityKeys category) :
    category ∈ shownCategories (settle outcome).2.isNone := by
  cases outcome with
  | ok snapshot =>
      change category ∈ Category.all
      cases category <;> decide
  | error e =>
      cases category with
      | metric => exact List.mem_singleton.mpr rfl
      | container | disk | sensor => cases hk

variable {plan : Plan} (sink : Publish.Sink σ) {past : List Event}

theorem Sound.visit {p : Pass σ} (h : Sound plan past p) (input : Input)
    (answer : Host × Command.Reply) : Sound plan past (visit plan sink input p answer) := by
  have hwell := shown_wellKeyed plan input p.sampler answer
  have hsampled : Sound plan past
      { p with sampler := (sample plan input.start p.sampler answer.1.name answer.2).2 } :=
    ⟨h.ledger, h.payloads⟩
  have hoffer : Sound plan past (offer plan sink input p answer) :=
    hsampled.foldl_announce sink answer.1.name hwell _
  obtain ⟨s, ok, he⟩ := visit_eq plan sink input p answer
  rw [he]
  refine ⟨?_, hoffer.payloads.push ?_⟩
  · rw [← List.append_assoc]
    exact hoffer.ledger.push_publish _ _ _
  · rintro _ _ _ ⟨⟩ key hk hl
    obtain ⟨hk, hd⟩ := Keyed.mem_keys_without.mp hk
    obtain ⟨category, hc⟩ := Snapshot.mem_entityKeys_of_mem_values hk hl
    exact foldl_announce_backs sink _ hwell hsampled (mem_shownCategories hc) hc hd

theorem Sound.pass (s : State σ) (h : Ledger plan s.registry past) (input : Input) :
    Sound plan past (pass plan sink input s) := by
  have hstart : Sound plan past (⟨s.sampler, s.registry, s.sink, [], []⟩ : Pass σ) := by
    refine ⟨by simpa using h, ?_⟩
    intro before host payload ok rest hsplit
    simp at hsplit
  unfold Poll.pass
  generalize (⟨s.sampler, s.registry, s.sink, [], []⟩ : Pass σ) = p at hstart
  induction input.answers generalizing p with
  | nil => exact hstart
  | cons answer rest ih => exact ih _ (hstart.visit sink input answer)

theorem Sound.tick (s : State σ) (h : Ledger plan s.registry past) (input : Input) :
    Ledger plan (tick plan sink input s).2.registry
      (past ++ (tick plan sink input s).1.events) ∧
    PayloadsBacked past (tick plan sink input s).1.events :=
  ⟨(Sound.pass sink s h input).ledger, (Sound.pass sink s h input).payloads⟩

-- The induction is on the ticks that are left; `past` holds the events of those
-- that are over.
theorem history_sound (inputs : List Input) (s : State σ) (h : Ledger plan s.registry past)
    {n : Nat} {t : Tick} {after : State σ} (hn : (history plan sink inputs s)[n]? = some (t, after)) :
    Ledger plan after.registry (past ++ eventsOf ((history plan sink inputs s).take (n + 1))) ∧
    PayloadsBacked (past ++ eventsOf ((history plan sink inputs s).take n)) t.events := by
  induction inputs generalizing s past n with
  | nil => simp [history] at hn
  | cons input rest ih =>
      obtain ⟨hledger, hpayloads⟩ := Sound.tick sink s h input
      cases n with
      | zero =>
          simp only [history, List.getElem?_cons_zero, Option.some.injEq] at hn
          rw [hn] at hledger hpayloads
          simpa [history, eventsOf, hn] using ⟨hledger, hpayloads⟩
      | succ n =>
          simp only [history, List.getElem?_cons_succ] at hn
          simpa [history, eventsOf, List.append_assoc] using ih _ hledger hn

theorem history_ledger (inputs : List Input) (s : State σ) (h : Ledger plan s.registry past) :
    ∃ r, Ledger plan r (past ++ eventsOf (history plan sink inputs s)) := by
  induction inputs generalizing s past with
  | nil => exact ⟨s.registry, by simpa [history, eventsOf] using h⟩
  | cons input rest ih =>
      obtain ⟨r, hr⟩ := ih _ (Sound.tick sink s h input).1
      exact ⟨r, by simpa [history, eventsOf, List.append_assoc] using hr⟩

-- What a new poller announces, whatever its hosts print and its sink refuses. The
-- events are the calls that the sink got and what it answered to each. A key is
-- announced once, only then is its identifier known, and no value is published that was
-- not at least offered before. Hosts are told apart by name.
theorem announcements_of_history (plan : Plan) (sink : Publish.Sink σ) (start : σ)
    (store : Store) (files : Files) (channel : Stream.Channel Report) (inputs : List Input) :
    let run := history plan sink inputs (State.start start store files channel)
    (∀ host, (announcedKeys host (eventsOf run)).Nodup) ∧
    (∀ host category keys ok, Event.announce host category keys ok ∈ eventsOf run →
      keys ≠ [] ∧ ∀ key ∈ keys, key ∉ plan.disabled) ∧
    ∀ n t s, run[n]? = some (t, s) →
      Replays sink start (eventsOf (run.take (n + 1))) s.sink ∧
      (∀ host category id, s.registry.isKnown host category id →
        ∀ key ∈ category.entityKeys id, key ∉ plan.disabled →
          ∃ keys, Event.announce host category keys true ∈ eventsOf (run.take (n + 1)) ∧
            key ∈ keys) ∧
      ∀ before host payload ok rest, t.events = before ++ .publish host payload ok :: rest →
        ∀ key ∈ payload.keys, key ∉ ["container_stats", "disk_stats"] →
          (∃ category keys, Event.announce host category keys true ∈
            eventsOf (run.take n) ++ before ∧ key ∈ keys) ∨
          ∃ category keys, Event.announce host category keys false ∈ before ∧ key ∈ keys := by
  intro run
  have hstart : Ledger plan (State.start start store files channel).registry [] :=
    Ledger.empty plan
  obtain ⟨r, hrun⟩ := history_ledger sink inputs _ hstart
  rw [List.nil_append] at hrun
  refine ⟨hrun.once, fun _ _ _ _ he => hrun.enabled he, fun n t s hn => ?_⟩
  obtain ⟨hledger, hpayloads⟩ := history_sound sink inputs _ hstart hn
  rw [List.nil_append] at hledger hpayloads
  exact ⟨replays_history plan inputs _ hn, fun _ _ _ hid => hledger.known hid, hpayloads⟩

end HostTelemetry.Poll
