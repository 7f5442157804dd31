import HostTelemetry.Proofs.Poll.Discovery
import HostTelemetry.Proofs.Publish.Delivery
import HostTelemetry.Proofs.Snapshot.Spelling

namespace HostTelemetry.Publish

namespace Link

-- The broker's side is at rest around each of the next messages.
def AtRest (l : Link) (count : Nat) : Prop :=
  ∀ now ∈ l.upcoming.take count, now = ⟨[], []⟩

theorem AtRest.moment {l : Link} {count : Nat} (h : l.AtRest (count + 1)) :
    l.moment = ⟨[], []⟩ := by
  cases hupcoming : l.upcoming with
  | nil => rw [Link.moment, hupcoming, List.headD_nil]
  | cons now later =>
      rw [Link.moment, hupcoming]
      exact h now (by simp [hupcoming])

theorem AtRest.found {l : Link} {count : Nat} (h : l.AtRest (count + 1)) :
    l.found = { l with upcoming := l.upcoming.tail } := by
  rw [Link.found, h.moment]
  rfl

theorem AtRest.advance {l : Link} {count : Nat} (h : l.AtRest (count + 1)) :
    l.advance = l.found ∧ l.advance.AtRest count := by
  have hadvance : l.advance = l.found := by
    rw [Link.advance, h.moment]
    rfl
  refine ⟨hadvance, ?_⟩
  rw [hadvance, h.found]
  intro now hnow
  cases hupcoming : l.upcoming with
  | nil => simp [hupcoming] at hnow
  | cons first later =>
      rw [AtRest, hupcoming, List.take_succ_cons] at h
      rw [hupcoming] at hnow
      exact h now (List.mem_cons_of_mem _ hnow)

theorem canTake_iff {l : Link} {topic : String} :
    l.canTake topic = true ↔ l.queue.length < capacity ∧ topic.toList.any isWildcard = false := by
  simp [canTake]

-- Nothing leaves the queue during the call, so either there is room for the whole row at
-- once or the call fails.
theorem sendAll_eq_ok_iff {b : Broker} {ms : List Message} {l : Link} (h : l.AtRest ms.length) :
    (sendAll b ms l).1 = .ok () ↔
      ms = [] ∨ l.isConnected = true ∧ l.queue.length + ms.length ≤ capacity ∧
        ∀ m ∈ ms, m.topic.toList.any isWildcard = false := by
  induction ms generalizing l with
  | nil => simp [sendAll]
  | cons m rest ih =>
      obtain ⟨hadvance, hrest⟩ := AtRest.advance h
      have hconnected : l.found.isConnected = l.isConnected := by rw [h.found]
      have hqueue : l.advance.queue = l.queue := by rw [hadvance, h.found]
      rw [sendAll]
      rcases send_cases b m l with ⟨htaken, hroom, he⟩ | ⟨hrefused, e, he⟩ <;> rw [he]
      · obtain ⟨hlength, htopic⟩ := canTake_iff.mp hroom
        have hput : (l.advance.put m).queue.length = l.queue.length + 1 := by
          rw [put, List.length_append, hqueue, List.length_singleton]
        have hstill : (l.advance.put m).isConnected = l.isConnected := by
          rw [← hconnected, ← hadvance, put]
        dsimp only
        rw [ih (l := l.advance.put m) hrest, hput, hstill]
        rw [hconnected] at htaken
        rw [hqueue] at hlength
        constructor
        · rintro (rfl | ⟨-, hall, htopics⟩)
          · refine .inr ⟨htaken, ?_, by simpa using htopic⟩
            rw [List.length_singleton]
            omega
          · refine .inr ⟨htaken, ?_, List.forall_mem_cons.mpr ⟨htopic, htopics⟩⟩
            rw [List.length_cons]
            omega
        · rintro (hnil | ⟨-, hall, htopics⟩)
          · cases hnil
          · refine .inr ⟨htaken, ?_, (List.forall_mem_cons.mp htopics).2⟩
            rw [List.length_cons] at hall
            omega
      · simp only [reduceCtorEq, List.length_cons, List.forall_mem_cons, false_or, false_iff]
        rintro ⟨hl, hlength, htopic, -⟩
        have hroom : l.advance.canTake m.topic = true :=
          canTake_iff.mpr ⟨by rw [hqueue]; omega, htopic⟩
        rw [hrefused (hconnected.trans hl)] at hroom
        cases hroom

end Link

-- A broker whose side stirs before the calls only, and not within one. All that happens
-- around one moment happens before its call.
def Link.between (call : Link → Except String Unit × Link) (l : Link) :
    Except String Unit × Link :=
  let result := call { l.advance with upcoming := [] }
  (result.1, { result.2 with upcoming := l.advance.upcoming })

def steadySink (b : Broker) : Sink Link where
  publish host payload := Link.between ((brokerSink b).publish host payload)
  announce host category keys := Link.between ((brokerSink b).announce host category keys)

theorem steadySink_refuses (b : Broker) (host : String) (category : Category)
    {keys : List String} (hlong : Link.capacity < keys.length) (l : Link) :
    succeeded ((steadySink b).announce host category keys l).1 = false := by
  change succeeded (Link.sendAll b (keys.map (Link.discoveryMessage b host))
    { l.advance with upcoming := [] }).1 = false
  have hms : (keys.map (Link.discoveryMessage b host)).length = keys.length := List.length_map _
  generalize keys.map (Link.discoveryMessage b host) = ms at hms ⊢
  have hrest : Link.AtRest { l.advance with upcoming := [] } ms.length := by simp [Link.AtRest]
  cases hresult : (Link.sendAll b ms { l.advance with upcoming := [] }).1 with
  | error e => rfl
  | ok =>
      rcases (Link.sendAll_eq_ok_iff hrest).mp hresult with rfl | ⟨-, hlength, -⟩
      · rw [← hms] at hlong
        exact absurd hlong (Nat.not_lt_zero _)
      · rw [hms] at hlength
        omega

end HostTelemetry.Publish

namespace HostTelemetry.Registry

-- What is unknown throughout is looked at as it stands.
theorem peek_of_unknown {r : Registry} {host : String} {category : Category}
    {observed : List String} (hnodup : observed.Nodup)
    (hunknown : ∀ id, r.isKnown host category id = false) :
    r.peek host category observed = observed := by
  suffices hfrom : ∀ fresh, (fresh ++ observed).Nodup →
      r.peekFrom host category fresh observed = fresh ++ observed from
    hfrom [] hnodup
  clear hnodup
  induction observed with
  | nil => exact fun fresh _ => (List.append_nil fresh).symm
  | cons id rest ih =>
      intro fresh hfresh
      have hnew : id ∉ fresh :=
        fun hmem => List.disjoint_of_nodup_append hfresh hmem List.mem_cons_self
      rw [peekFrom_cons, if_neg (by simp [hunknown, hnew]), ih, List.append_assoc]
      · rfl
      · simpa using hfresh

end HostTelemetry.Registry

namespace HostTelemetry.Poll

variable {σ : Type} {limit : Nat} {host : String} {category : Category}

-- Whenever a tick shows something of this category for this host, there are more
-- enabled keys to it than the limit.
def Overlong (plan : Plan) (limit : Nat) (host : String) (category : Category)
    (input : Input) : Prop :=
  ∀ answer ∈ input.answers, answer.1.name = host → ∀ s,
    category ∈ shownCategories (shown plan input s answer).2.isNone →
      limit < (enabledKeys plan category ((shown plan input s answer).1.ids category)).length

-- A sink that takes no list of keys beyond its limit.
def Limited (sink : Publish.Sink σ) (limit : Nat) : Prop :=
  ∀ host category keys s, limit < keys.length →
    Publish.succeeded (sink.announce host category keys s).1 = false

def Unknown (host : String) (category : Category) (r : Registry) : Prop :=
  ∀ id, r.isKnown host category id = false

theorem Unknown.record {r : Registry} (h : Unknown host category r) {name : String}
    {offered : Category} (hother : ¬(name = host ∧ offered = category)) (ids : List String) :
    Unknown host category (r.record name offered ids) := by
  intro id
  rw [Bool.eq_false_iff, Ne, Registry.isKnown_record]
  rintro (hold | ⟨rfl, rfl, -⟩)
  · rw [h id] at hold
    cases hold
  · exact hother ⟨rfl, rfl⟩

section Starving

variable {plan : Plan} {sink : Publish.Sink σ} (hsink : Limited sink limit)

include hsink

theorem Unknown.announce {name : String} {snapshot : Snapshot} {p : Pass σ} {offered : Category}
    (h : Unknown host category p.registry) (hwell : snapshot.WellKeyed)
    (hlong : name = host → offered = category →
      limit < (enabledKeys plan category (snapshot.ids category)).length) :
    Unknown host category (announce plan sink name snapshot p offered).registry := by
  by_cases hsame : name = host ∧ offered = category
  · obtain ⟨rfl, rfl⟩ := hsame
    have hrefused := hsink name offered _ p.sink (hlong rfl rfl)
    simp only [Poll.announce, Registry.peek_of_unknown (hwell.nodup offered) h, hrefused]
    split
    · next hempty =>
        rw [List.isEmpty_iff.mp hempty] at hlong
        exact absurd (hlong rfl rfl) (Nat.not_lt_zero _)
    · exact h
  · rcases announce_cases plan sink name snapshot p offered with ⟨-, he⟩ | ⟨-, s, ok, he⟩ <;>
      rw [he]
    · exact h.record hsame _
    · cases ok with
      | true => exact h.record hsame _
      | false => exact h

theorem Unknown.foldl_announce {name : String} {snapshot : Snapshot} (hwell : snapshot.WellKeyed)
    {categories : List Category}
    (hlong : name = host → category ∈ categories →
      limit < (enabledKeys plan category (snapshot.ids category)).length)
    {p : Pass σ} (h : Unknown host category p.registry) :
    Unknown host category
      (categories.foldl (Poll.announce plan sink name snapshot) p).registry := by
  induction categories generalizing p with
  | nil => exact h
  | cons offered rest ih =>
      refine ih (fun hname hmem => hlong hname (List.mem_cons_of_mem _ hmem)) ?_
      exact h.announce hsink hwell fun hname hoffered =>
        hlong hname (hoffered ▸ List.mem_cons_self)

theorem Unknown.visit {input : Input} (hlong : Overlong plan limit host category input)
    {p : Pass σ} (h : Unknown host category p.registry) {answer : Host × Command.Reply}
    (hasked : answer ∈ input.answers) :
    Unknown host category (visit plan sink input p answer).registry := by
  obtain ⟨s, ok, he⟩ := visit_eq plan sink input p answer
  rw [he]
  exact foldl_announce hsink (shown_wellKeyed plan input p.sampler answer)
    (fun hname => hlong answer hasked hname p.sampler) h

theorem Unknown.tick {input : Input} (hlong : Overlong plan limit host category input)
    {s : State σ} (h : Unknown host category s.registry) :
    Unknown host category (tick plan sink input s).2.registry := by
  rw [tick_registry, pass]
  have hstart : Unknown host category
      (⟨s.sampler, s.registry, s.sink, [], []⟩ : Pass σ).registry := h
  generalize (⟨s.sampler, s.registry, s.sink, [], []⟩ : Pass σ) = p at hstart
  suffices hfold : ∀ answers ⊆ input.answers,
      Unknown host category (answers.foldl (Poll.visit plan sink input) p).registry from
    hfold _ (List.Subset.refl _)
  intro answers hsub
  induction answers generalizing p with
  | nil => exact hstart
  | cons answer rest ih =>
      obtain ⟨hasked, hrest⟩ := List.cons_subset.mp hsub
      exact ih _ (hstart.visit hsink hlong hasked) hrest

theorem Unknown.history {inputs : List Input}
    (hlong : ∀ input ∈ inputs, Overlong plan limit host category input) {s : State σ}
    (h : Unknown host category s.registry) :
    ∀ result ∈ history plan sink inputs s, Unknown host category result.2.registry := by
  induction inputs generalizing s with
  | nil => exact fun _ hnone => by cases hnone
  | cons input rest ih =>
      obtain ⟨hinput, hrest⟩ := List.forall_mem_cons.mp hlong
      have htick := h.tick hsink hinput
      exact List.forall_mem_cons.mpr ⟨htick, ih hrest htick⟩

end Starving

-- Output in time that is not blank is taken as it is.
theorem text_of_prompt {timeout delay : Nat} {out : Command.Output} (hprompt : delay ≤ timeout)
    (hsaid : ¬Text.AllBlank out.stdout) :
    Command.Reply.text ⟨delay, .ok out⟩ timeout = .ok out.stdout := by
  rw [Command.Reply.text_of_inTime hprompt]
  simp [Except.bind, Command.Output.text, hsaid]

-- What a text shows does not depend on what was measured before.
theorem shown_ids {plan : Plan} {input : Input} {answer : Host × Command.Reply}
    {stdout : String} (htext : answer.2.text plan.timeout = .ok stdout) {r : Reading}
    (hread : Reading.parse stdout = .ok r) (s : Sampler) (category : Category) :
    (shown plan input s answer).1.ids category =
      (Sampler.snapshotOf r ⟨none, none, none⟩).ids category := by
  have hsample : (sample plan input.start s answer.1.name answer.2).1 =
      .ok (Sampler.snapshotOf r ((s.memory answer.1.name).derive r
        (Time.seconds (input.start + answer.2.delay))).1) := by
    rw [sample, htext]
    exact Sampler.normalize_eq_ok_iff.mpr ⟨r, hread, rfl⟩
  rw [shown, hsample]
  cases category <;> rfl

-- With nothing disabled, every usable container has its two keys announced.
theorem length_enabledKeys_container {plan : Plan} (hall : plan.disabled = []) (r : Reading)
    (d : Sampler.Derived) :
    (enabledKeys plan .container ((Sampler.snapshotOf r d).ids .container)).length =
      2 * (Sampler.usableContainers r.containerStats).length := by
  have hkeys : ((Sampler.snapshotOf r d).ids .container).length =
      (Sampler.usableContainers r.containerStats).length := by
    change ((Sampler.containerStats r.containerStats).map (·.key)).length = _
    rw [Sampler.containerStats_keys, Sampler.length_claimAll, List.length_map]
  rw [enabledKeys, hall, ← hkeys]
  simp [List.length_flatMap, Category.entityKeys, Nat.mul_comm]

end HostTelemetry.Poll

namespace HostTelemetry.Publish

theorem any_isWildcard_of_plain {s : String} (h : Text.IsPlain s) :
    s.toList.any Link.isWildcard = false := by
  rw [List.any_eq_false]
  intro c hc hwild
  simp only [Link.isWildcard, Bool.or_eq_true, beq_iff_eq] at hwild
  rcases hwild with rfl | rfl <;> exact absurd hc (h.not_mem (by decide))

-- Only the first part of a topic is free to hold a wildcard.
theorem any_isWildcard_discoveryTopic {discoveryPrefix host key : String}
    (hkey : Text.IsPlain key) :
    (discoveryTopic discoveryPrefix host key).toList.any Link.isWildcard =
      discoveryPrefix.toList.any Link.isWildcard := by
  have hid : (uniqueId host key).toList.any Link.isWildcard = false :=
    any_isWildcard_of_plain (Text.isPlain_append.mpr
      ⟨Text.isPlain_append.mpr ⟨Text.slug_plain host, by decide⟩, hkey⟩)
  simp only [discoveryTopic, String.toList_append, List.any_append, hid, Bool.or_false]
  rw [show "/sensor/".toList.any Link.isWildcard = false by decide,
    show "/config".toList.any Link.isWildcard = false by decide, Bool.or_false, Bool.or_false]

-- A broker that is connected and has taken all there was takes an announcement if it
-- fits into the queue as a whole. One that does not fit is refused in every tick anew:
-- as long as a host shows that much, a poller comes to know nothing of what it shows.
theorem announce_fits_or_starves (b : Broker) :
    (∀ host category keys (l : Link), l.isConnected = true → l.queue = [] →
      l.AtRest keys.length →
        (((brokerSink b).announce host category keys l).1 = .ok () ↔
          keys.length ≤ Link.capacity ∧
          ∀ key ∈ keys, (discoveryTopic b.discoveryPrefix host key).toList.any
            Link.isWildcard = false)) ∧
    ∀ plan inputs host category (start : Poll.State Link), start.registry = [] →
      (∀ input ∈ inputs, Poll.Overlong plan Link.capacity host category input) →
      ∀ result ∈ Poll.history plan (steadySink b) inputs start,
        ∀ id, result.2.registry.isKnown host category id = false := by
  constructor
  · intro host category keys l hconnected hempty hrest
    have hms : l.AtRest (keys.map (Link.discoveryMessage b host)).length := by
      rwa [List.length_map]
    refine Iff.trans (Link.sendAll_eq_ok_iff hms) ?_
    rw [List.map_eq_nil_iff, hempty, List.length_nil, Nat.zero_add, List.length_map,
      List.forall_mem_map]
    constructor
    · rintro (rfl | ⟨-, hlength, htopics⟩)
      · exact ⟨Nat.zero_le _, fun _ hnone => by cases hnone⟩
      · exact ⟨hlength, htopics⟩
    · exact fun h => .inr ⟨hconnected, h⟩
  · intro plan inputs host category start hnew hlong
    have hlimited : Poll.Limited (steadySink b) Link.capacity :=
      fun host category keys l hkeys => steadySink_refuses b host category hkeys l
    have hstart : Poll.Unknown host category start.registry := by
      intro id
      rw [hnew]
      rfl
    exact hstart.history hlimited hlong

def idleLink : Link := ⟨true, [], [], []⟩

def attic : Broker :=
  ⟨"broker.lan", 1883, none, none, "telemetry", "vserver_ssh", "homeassistant"⟩

def crowd (size : Nat) : List String :=
  (List.range size).map fun i => "sensor_s" ++ Nat.repr i

theorem crowd_plain {size : Nat} : ∀ key ∈ crowd size, Text.IsPlain key := by
  intro key hkey
  obtain ⟨i, -, rfl⟩ := List.mem_map.mp hkey
  exact Text.isPlain_append.mpr ⟨by decide, Sampler.repr_plain i⟩

-- A list of one key more than the queue holds.
theorem crowd_refused :
    ¬∀ (b : Broker) (host : String) (category : Category) (keys : List String) (l : Link),
      l.isConnected = true → l.queue = [] → l.AtRest keys.length →
        ((brokerSink b).announce host category keys l).1 = .ok () := by
  intro hall
  have hrest : idleLink.AtRest (crowd 65).length := by simp [Link.AtRest, idleLink]
  have hok := hall attic "web" .sensor (crowd 65) idleLink rfl rfl hrest
  rcases (Link.sendAll_eq_ok_iff (by rwa [List.length_map])).mp hok with hnil | ⟨-, hlength, -⟩
  · exact absurd hnil (by decide)
  · exact absurd hlength (by decide)

-- The queue is emptied before every call, and the host shows 33 containers.
def emptiedLink : Link :=
  ⟨false, [], [], [⟨[.connected], []⟩, ⟨[.drained 64], []⟩, ⟨[.drained 64], []⟩,
    ⟨[.drained 64], []⟩, ⟨[.drained 64], []⟩]⟩

@[irreducible]
def crowdedOutput : String :=
  String.ofList ("\x7b\"container_stats\":[".toList ++
    ((List.replicate 33 "\x7b\"name\":\"c\"\x7d".toList).intersperse [',']).flatten ++
    "]\x7d".toList)

def crowdedTick (start : Nat) : Poll.Input where
  start := start
  timestamp := 1700000000000
  answers := [(⟨"web", "10.0.0.1", 22, "root", none, none⟩, ⟨40, .ok ⟨crowdedOutput, "", some 0⟩⟩)]
  interruption := none

def crowdedPlan : Poll.Plan := ⟨20000, "stats", []⟩

theorem parse_crowdedOutput :
    ∃ r, Reading.parse crowdedOutput = .ok r ∧
      (Sampler.usableContainers r.containerStats).length = 33 := by
  have hlength : (Reading.parse crowdedOutput).toOption.map (fun r =>
      (Sampler.usableContainers r.containerStats).length) = some 33 := by
    unfold crowdedOutput
    rw [Reading.parse, Reading.extractObject, String.toList_ofList]
    decide +kernel
  cases hread : Reading.parse crowdedOutput with
  | error e => rw [hread] at hlength; cases hlength
  | ok r => exact ⟨r, rfl, by rw [hread] at hlength; exact Option.some_inj.mp hlength⟩

theorem not_allBlank_crowdedOutput : ¬Text.AllBlank crowdedOutput := by
  unfold crowdedOutput
  rw [Text.AllBlank, String.toList_ofList]
  decide +kernel

theorem overlong_crowdedTick (start : Nat) :
    Poll.Overlong crowdedPlan Link.capacity "web" .container (crowdedTick start) := by
  rintro answer hanswer - s -
  obtain rfl := List.mem_singleton.mp hanswer
  obtain ⟨r, hread, hlength⟩ := parse_crowdedOutput
  have htext : Command.Reply.text ⟨40, .ok ⟨crowdedOutput, "", some 0⟩⟩ crowdedPlan.timeout =
      .ok crowdedOutput := Poll.text_of_prompt (by decide) not_allBlank_crowdedOutput
  rw [Poll.shown_ids htext hread, Poll.length_enabledKeys_container rfl, hlength]
  decide

def crowdedRun : List (Poll.Tick × Poll.State Link) :=
  Poll.history crowdedPlan (steadySink attic) [crowdedTick 0, crowdedTick 30000]
    (.start emptiedLink .inMemory [] (Stream.Channel.ofCapacity 1))

theorem announce_fits_or_starves_crowd :
    ((brokerSink attic).announce "web" .sensor (crowd 64) idleLink).1 = .ok () ∧
    crowdedRun.length = 2 ∧
    ∀ result ∈ crowdedRun, result.2.registry.isKnown "web" .container "c" = false := by
  obtain ⟨hfits, hstarves⟩ := announce_fits_or_starves attic
  have hrest : idleLink.AtRest (crowd 64).length := by simp [Link.AtRest, idleLink]
  have hlong : ∀ input ∈ [crowdedTick 0, crowdedTick 30000],
      Poll.Overlong crowdedPlan Link.capacity "web" .container input := by
    simpa using ⟨overlong_crowdedTick 0, overlong_crowdedTick 30000⟩
  have htopics : ∀ key ∈ crowd 64, (discoveryTopic attic.discoveryPrefix "web" key).toList.any
      Link.isWildcard = false :=
    fun key hkey => (any_isWildcard_discoveryTopic (crowd_plain key hkey)).trans (by decide)
  refine ⟨(hfits "web" .sensor (crowd 64) idleLink rfl rfl hrest).mpr ⟨by decide, htopics⟩,
    rfl, fun result hresult => ?_⟩
  exact hstarves crowdedPlan _ "web" .container _ rfl hlong result hresult "c"

end HostTelemetry.Publish
