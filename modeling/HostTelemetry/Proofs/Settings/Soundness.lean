import HostTelemetry.Proofs.Publish.Identity

namespace HostTelemetry

-- What is asked of a host whatever the other hosts are.
structure Host.Usable (h : Host) : Prop where
  name : ¬Text.AllBlank h.name
  address : h.address ≠ ""
  username : h.username ≠ ""
  port : 0 < h.port

structure Broker.Usable (b : Broker) : Prop where
  host : b.host ≠ ""
  port : 0 < b.port
  clientId : b.clientId ≠ ""

namespace Settings

-- What is asked of settings apart from the single hosts.
structure Framed (s : Settings) : Prop where
  serverPort : 0 < s.server.port
  interval : 0 < s.polling.interval
  commandTimeout : 2 ≤ s.polling.commandTimeout
  connectTimeout : 0 < s.polling.connectTimeout
  command : ∀ command ∈ s.polling.command, ¬Text.AllBlank command
  broadcastCapacity : 0 < s.publishing.broadcastCapacity
  actionTimeout : 0 < s.actions.timeout
  broker : ∀ b ∈ s.broker, b.Usable
  hosts : s.hosts ≠ []

structure Sound (s : Settings) : Prop extends Framed s where
  usable : ∀ h ∈ s.hosts, h.Usable
  apart : (s.hosts.map fun h => Text.slug h.name).Nodup

-- A host that cannot be accepted behind these hosts.
def Rejected (before : List Host) (h : Host) : Prop :=
  ¬h.Usable ∨ ∃ other ∈ before, Text.slug other.name = Text.slug h.name

-- What a problem says of a host, given the names of the hosts before it.
def HostProblem.Of (earlier : List String) (h : Host) : HostProblem → Prop
  | .blankName => Text.AllBlank h.name
  | .sameName => h.name ∈ earlier
  | .sameSlug other => other ∈ earlier ∧ Text.slug other = Text.slug h.name
  | .noAddress => h.address = ""
  | .noUsername => h.username = ""
  | .noPort => h.port = 0

section Checks

variable {s : Settings}

theorem bind_eq_ok_iff {α : Type} {check : Except Invalid Unit} {next : Unit → Except Invalid α}
    {a : α} : (check >>= next) = .ok a ↔ check = .ok () ∧ next () = .ok a := by
  constructor
  · exact ok_of_bind
  · rintro ⟨rfl, h⟩
    exact h

theorem ensure_eq_ok_iff {holds : Bool} {otherwise : Invalid} :
    ensure holds otherwise = .ok () ↔ holds = true := by
  cases holds <;> simp [ensure]

theorem checkBroker_eq_ok_iff {broker : Option Broker} :
    checkBroker broker = .ok () ↔ ∀ b ∈ broker, b.Usable := by
  cases broker with
  | none => simp [checkBroker]
  | some b =>
      simp only [checkBroker, bind_eq_ok_iff, ensure_eq_ok_iff, decide_eq_true_eq,
        Option.mem_some_iff, forall_eq']
      constructor
      · rintro ⟨hhost, hport, hclient⟩
        exact ⟨hhost, hport, hclient⟩
      · rintro ⟨hhost, hport, hclient⟩
        exact ⟨hhost, hport, hclient⟩

theorem command_all_iff {command : Option String} :
    (command.all fun command => !Text.AllBlank command) = true ↔
      ∀ c ∈ command, ¬Text.AllBlank c := by
  cases command <;> simp

theorem validate_eq_ok_iff :
    s.validate = .ok () ↔ s.Framed ∧ checkHosts [] s.hosts = .ok () := by
  simp only [validate, bind_eq_ok_iff, ensure_eq_ok_iff, checkBroker_eq_ok_iff, command_all_iff,
    decide_eq_true_eq]
  constructor
  · rintro ⟨hport, hinterval, hcommand, hconnect, hblank, hcapacity, haction, hbroker, hne, h⟩
    exact ⟨⟨hport, hinterval, hcommand, hconnect, hblank, hcapacity, haction, hbroker,
      by simpa using hne⟩, h⟩
  · rintro ⟨hframed, h⟩
    exact ⟨hframed.serverPort, hframed.interval, hframed.commandTimeout, hframed.connectTimeout,
      hframed.command, hframed.broadcastCapacity, hframed.actionTimeout, hframed.broker,
      by simpa using hframed.hosts, h⟩

-- When nothing else is wrong, the hosts decide.
theorem Framed.validate_eq (h : s.Framed) : s.validate = checkHosts [] s.hosts := by
  have hensure : ∀ {holds : Bool} {otherwise : Invalid}, holds = true →
      ensure holds otherwise = .ok () := ensure_eq_ok_iff.mpr
  unfold validate
  rw [hensure (decide_eq_true h.serverPort), hensure (decide_eq_true h.interval),
    hensure (decide_eq_true h.commandTimeout), hensure (decide_eq_true h.connectTimeout),
    hensure (command_all_iff.mpr h.command), hensure (decide_eq_true h.broadcastCapacity),
    hensure (decide_eq_true h.actionTimeout), checkBroker_eq_ok_iff.mpr h.broker,
    hensure (by simpa using h.hosts)]
  rfl

end Checks

section Hosts

variable {before hosts : List Host} {earlier : List String} {h : Host}

theorem hostProblem?_of {problem : HostProblem} (hp : hostProblem? earlier h = some problem) :
    problem.Of earlier h := by
  unfold hostProblem? at hp
  split at hp
  · next hblank => cases hp; exact hblank
  split at hp
  · next hname => cases hp; exact hname
  split at hp
  · next other hfind =>
      cases hp
      exact ⟨List.mem_of_find?_eq_some hfind, by simpa using List.find?_some hfind⟩
  split at hp
  · next haddress => cases hp; exact haddress
  split at hp
  · next husername => cases hp; exact husername
  split at hp
  · next hport => cases hp; exact hport
  · cases hp

theorem hostProblem?_eq_none_iff :
    hostProblem? earlier h = none ↔ h.Usable ∧ Text.slug h.name ∉ earlier.map Text.slug := by
  constructor
  · intro hnone
    refine ⟨?_, slug_not_mem_of_sound hnone⟩
    unfold hostProblem? at hnone
    split at hnone
    · cases hnone
    next hname =>
    split at hnone
    · cases hnone
    split at hnone
    · cases hnone
    split at hnone
    · cases hnone
    next haddress =>
    split at hnone
    · cases hnone
    next husername =>
    split at hnone
    · cases hnone
    next hport =>
    exact ⟨hname, haddress, husername, Nat.pos_of_ne_zero hport⟩
  · rintro ⟨husable, hslug⟩
    have hname : h.name ∉ earlier := fun hmem => hslug (List.mem_map_of_mem hmem)
    have hfind : earlier.find? (fun other => Text.slug other = Text.slug h.name) = none := by
      rw [List.find?_eq_none]
      intro other hother he
      exact hslug (List.mem_map.mpr ⟨other, hother, by simpa using he⟩)
    rw [hostProblem?, if_neg husable.name, if_neg hname, hfind]
    simp only [if_neg husable.address, if_neg husable.username,
      if_neg (Nat.ne_of_gt husable.port)]

-- The names before a host are all that its check knows of the hosts before it.
theorem rejected_iff : Rejected before h ↔ hostProblem? (before.map (·.name)) h ≠ none := by
  rw [Ne, hostProblem?_eq_none_iff, not_and_or, not_not, List.map_map, List.mem_map, Rejected]
  rfl

-- The first host with a problem stops the check, and only such a host does.
theorem checkHosts_eq_error {fault : Invalid} (hfault : checkHosts earlier hosts = .error fault) :
    ∃ before h after problem, hosts = before ++ h :: after ∧
      fault = .host (earlier.length + before.length) h.name problem ∧
      hostProblem? (earlier ++ before.map (·.name)) h = some problem ∧
      checkHosts earlier before = .ok () := by
  induction hosts generalizing earlier with
  | nil => cases hfault
  | cons first rest ih =>
      rw [checkHosts] at hfault
      split at hfault
      · next problem hproblem =>
          cases hfault
          exact ⟨[], first, rest, problem, rfl, rfl, by simpa using hproblem, rfl⟩
      · next hsound =>
          obtain ⟨before, h, after, problem, rfl, rfl, hproblem, hbefore⟩ := ih hfault
          refine ⟨first :: before, h, after, problem, rfl, ?_, by simpa using hproblem, ?_⟩
          · simp [Nat.add_comm, Nat.add_left_comm]
          · rw [checkHosts, hsound]
            exact hbefore

theorem checkHosts_eq_ok_iff :
    checkHosts earlier hosts = .ok () ↔ ∀ before h after, hosts = before ++ h :: after →
      hostProblem? (earlier ++ before.map (·.name)) h = none := by
  induction hosts generalizing earlier with
  | nil => simp [checkHosts]
  | cons first rest ih =>
      rw [checkHosts]
      constructor
      · intro hok before h after hsplit
        split at hok
        · cases hok
        next hsound =>
        cases before with
        | nil =>
            obtain ⟨rfl, -⟩ := List.cons_eq_cons.mp hsplit
            simpa using hsound
        | cons first' before =>
            obtain ⟨rfl, rfl⟩ := List.cons_eq_cons.mp hsplit
            simpa using ih.mp hok before h after rfl
      · intro hall
        have hsound : hostProblem? earlier first = none := by simpa using hall [] first rest rfl
        rw [hsound]
        refine ih.mpr fun before h after hsplit => ?_
        simpa using hall (first :: before) h after (by rw [hsplit]; rfl)

theorem checkHosts_nil_eq_ok_iff :
    checkHosts [] hosts = .ok () ↔
      ∀ before h after, hosts = before ++ h :: after → ¬Rejected before h := by
  simp only [checkHosts_eq_ok_iff, List.nil_append, rejected_iff, not_not]

theorem checkHosts_nil_eq_ok_iff_apart :
    checkHosts [] hosts = .ok () ↔
      (∀ h ∈ hosts, h.Usable) ∧ (hosts.map fun h => Text.slug h.name).Nodup := by
  constructor
  · intro hok
    refine ⟨fun h hmem => ?_, by
      simpa [Function.comp_def] using nodup_slugs_of_checkHosts hok List.nodup_nil⟩
    obtain ⟨before, after, hsplit⟩ := List.append_of_mem hmem
    by_contra hunusable
    exact checkHosts_nil_eq_ok_iff.mp hok before h after hsplit (.inl hunusable)
  · rintro ⟨husable, hapart⟩
    refine checkHosts_nil_eq_ok_iff.mpr ?_
    rintro before h after rfl (hunusable | ⟨other, hother, he⟩)
    · exact hunusable (husable h (by simp))
    · rw [List.map_append, List.map_cons] at hapart
      exact List.disjoint_of_nodup_append hapart (List.mem_map_of_mem hother)
        (he ▸ List.mem_cons_self)

end Hosts

theorem validate_eq_ok_iff_sound {s : Settings} : s.validate = .ok () ↔ s.Sound := by
  rw [validate_eq_ok_iff, checkHosts_nil_eq_ok_iff_apart]
  constructor
  · rintro ⟨hframed, husable, hapart⟩
    exact ⟨hframed, husable, hapart⟩
  · rintro ⟨hframed, husable, hapart⟩
    exact ⟨hframed, husable, hapart⟩

theorem Sound.slug_ne {s : Settings} (h : s.Sound) {i j : Nat} {a b : Host} (hne : i ≠ j)
    (ha : s.hosts[i]? = some a) (hb : s.hosts[j]? = some b) :
    Text.slug a.name ≠ Text.slug b.name := by
  intro he
  have hlt : i < (s.hosts.map fun h => Text.slug h.name).length := by
    rw [List.length_map]
    exact (List.getElem?_eq_some_iff.mp ha).1
  refine hne ((List.getElem?_inj hlt h.apart).mp ?_)
  rw [List.getElem?_map, List.getElem?_map, ha, hb, Option.map_some, Option.map_some, he]

end Settings

namespace Publish

theorem slug_of_stateTopic {topicPrefix host other : String}
    (h : stateTopic topicPrefix host = stateTopic topicPrefix other) :
    Text.slug host = Text.slug other := by
  simpa [stateTopic] using h

theorem slug_of_deviceId {host other : String} (h : deviceId host = deviceId other) :
    Text.slug host = Text.slug other := by
  simpa [deviceId] using h

-- The ids of the device that an announcement is about.
def deviceIds (config : Json) : Option Json :=
  (config.field? "device").bind (Json.field? "identifiers")

theorem deviceIds_discoveryConfig (topicPrefix host key : String) :
    deviceIds (discoveryConfig topicPrefix host key) = some (Json.texts [deviceId host]) := by
  rw [deviceIds, field?_fixed topicPrefix host key (by decide)]
  simp [Keyed.find?, Json.ofKeyed, Json.field?, Keyed.find?_ofList]

end Publish

namespace Settings

open Publish (stateTopic deviceIds discoveryConfig)

-- Accepted are just the sound settings, and their hosts are told apart wherever they
-- are named. Settings with nothing wrong but their hosts are refused for the first
-- host that is unusable or has the slug of an earlier one.
theorem validate_accepts_sound (s : Settings) :
    (s.validate = .ok () ↔ s.Sound) ∧
    (s.validate = .ok () → ∀ (i j : Nat) (a b : Host), i ≠ j →
      s.hosts[i]? = some a → s.hosts[j]? = some b →
      a.name ≠ b.name ∧
      (∀ topicPrefix, stateTopic topicPrefix a.name ≠ stateTopic topicPrefix b.name) ∧
      ∀ topicPrefix key key', deviceIds (discoveryConfig topicPrefix a.name key) ≠
        deviceIds (discoveryConfig topicPrefix b.name key')) ∧
    (s.Framed → ∀ fault, s.validate = .error fault →
      ∃ before h after problem, s.hosts = before ++ h :: after ∧
        fault = .host before.length h.name problem ∧ problem.Of (before.map (·.name)) h ∧
        Rejected before h ∧
        ∀ before' h' after', before = before' ++ h' :: after' → ¬Rejected before' h') := by
  refine ⟨validate_eq_ok_iff_sound, fun hok i j a b hne ha hb => ?_, fun hframed fault hfault => ?_⟩
  · have hslug := (validate_eq_ok_iff_sound.mp hok).slug_ne hne ha hb
    refine ⟨fun he => hslug (congrArg Text.slug he),
      fun topicPrefix he => hslug (Publish.slug_of_stateTopic he),
      fun topicPrefix key key' he => ?_⟩
    rw [Publish.deviceIds_discoveryConfig, Publish.deviceIds_discoveryConfig] at he
    exact hslug (Publish.slug_of_deviceId (by simpa [Json.texts] using he))
  · rw [hframed.validate_eq] at hfault
    obtain ⟨before, h, after, problem, hsplit, hnamed, hproblem, hbefore⟩ :=
      checkHosts_eq_error hfault
    rw [List.nil_append] at hproblem
    refine ⟨before, h, after, problem, hsplit, by simpa using hnamed, hostProblem?_of hproblem,
      rejected_iff.mpr (by simp [hproblem]), checkHosts_nil_eq_ok_iff.mp hbefore⟩

-- The second name is spelled like the first one in topics, and the third is blank.
def clashingNames : Settings where
  server := ⟨8081, "0.0.0.0"⟩
  polling := ⟨30, 60, 10, some "uptime"⟩
  publishing := ⟨[], none, 16⟩
  broker := some ⟨"broker.lan", 1883, none, none, "stats", "stats", "homeassistant"⟩
  actions := ⟨false, false, 600⟩
  hosts := [⟨"web-1", "10.0.0.1", 22, "root", none, none⟩,
    ⟨"Web 1", "10.0.0.2", 22, "root", none, none⟩, ⟨" ", "10.0.0.3", 22, "root", none, none⟩]

theorem framed_clashingNames : clashingNames.Framed where
  serverPort := by decide
  interval := by decide
  commandTimeout := by decide
  connectTimeout := by decide
  command := by decide
  broadcastCapacity := by decide
  actionTimeout := by decide
  broker := by
    rintro b ⟨⟩
    exact ⟨by decide, by decide, by decide⟩
  hosts := by simp [clashingNames]

theorem validate_accepts_sound_clash :
    Publish.nestedNames.validate = .ok () ∧ Publish.nestedNames.Sound ∧
    deviceIds (discoveryConfig "stats" "a" "cpu") ≠
      deviceIds (discoveryConfig "stats" "a_container_web" "cpu") ∧
    clashingNames.Framed ∧
    clashingNames.validate = .error (.host 1 "Web 1" (.sameSlug "web-1")) ∧
    ∃ before h after problem, clashingNames.hosts = before ++ h :: after ∧
      Invalid.host 1 "Web 1" (.sameSlug "web-1") = .host before.length h.name problem ∧
      problem.Of (before.map (·.name)) h ∧ Rejected before h := by
  have hclash : clashingNames.validate = .error (.host 1 "Web 1" (.sameSlug "web-1")) := by
    decide +kernel
  obtain ⟨haccepted, hapart, -⟩ := validate_accepts_sound Publish.nestedNames
  obtain ⟨-, -, hfirst⟩ := validate_accepts_sound clashingNames
  obtain ⟨-, -, hids⟩ := hapart Publish.validate_nestedNames 0 1 _ _ (by decide) rfl rfl
  obtain ⟨before, h, after, problem, hsplit, hnamed, hproblem, hrejected, -⟩ :=
    hfirst framed_clashingNames _ hclash
  exact ⟨Publish.validate_nestedNames, haccepted.mp Publish.validate_nestedNames,
    hids "stats" "cpu" "cpu", framed_clashingNames, hclash, before, h, after, problem, hsplit,
    hnamed, hproblem, hrejected⟩

end Settings

end HostTelemetry
