import HostTelemetry.Api.Respond
import HostTelemetry.Remote.Ssh
import Mathlib.Data.List.Forall2
import Mathlib.Data.Option.Defs

namespace HostTelemetry

-- Two hosts that differ at most in where and as whom to log in. Whether there is a
-- password or a key is no secret.
structure Host.SameButLogin (h h' : Host) : Prop where
  name : h.name = h'.name
  port : h.port = h'.port
  password : h.password.isSome = h'.password.isSome
  key : h.key.isSome = h'.key.isSome

-- Two brokers that differ at most in the login; whether there is one is no secret.
structure Broker.SameButLogin (b b' : Broker) : Prop where
  host : b.host = b'.host
  port : b.port = b'.port
  username : b.username.isSome = b'.username.isSome
  clientId : b.clientId = b'.clientId
  topicPrefix : b.topicPrefix = b'.topicPrefix
  discoveryPrefix : b.discoveryPrefix = b'.discoveryPrefix

structure Settings.SameButLogins (s s' : Settings) : Prop where
  server : s.server = s'.server
  polling : s.polling = s'.polling
  publishing : s.publishing = s'.publishing
  broker : Option.Rel Broker.SameButLogin s.broker s'.broker
  actions : s.actions = s'.actions
  hosts : List.Forall₂ Host.SameButLogin s.hosts s'.hosts

theorem masked_eq {mask : String} {secret secret' : Option String}
    (h : secret.isSome = secret'.isSome) :
    secret.map (fun _ => mask) = secret'.map (fun _ => mask) := by
  cases secret with
  | none =>
      cases secret' with
      | none => rfl
      | some _ => cases h
  | some _ =>
      cases secret' with
      | none => cases h
      | some _ => rfl

theorem Host.SameButLogin.redacted {h h' : Host} (hsame : h.SameButLogin h') :
    h.redacted = h'.redacted := by
  simp only [Host.redacted, hsame.name, hsame.port, masked_eq hsame.password, masked_eq hsame.key]

theorem Broker.SameButLogin.view {b b' : Broker} (hsame : b.SameButLogin b') :
    b.view = b'.view := by
  simp only [Broker.view, hsame.host, hsame.port, hsame.username, hsame.clientId,
    hsame.topicPrefix, hsame.discoveryPrefix]

theorem Settings.SameButLogins.view {s s' : Settings} (hsame : s.SameButLogins s') :
    s.view = s'.view := by
  have hbroker : Json.ofOption Broker.view s.broker = Json.ofOption Broker.view s'.broker := by
    have hrel := hsame.broker
    revert hrel
    generalize s.broker = broker, s'.broker = broker'
    rintro (hb | _)
    · exact hb.view
    · rfl
  have hhosts : s.hosts.map (fun h => h.redacted.toJson) =
      s'.hosts.map (fun h => h.redacted.toJson) := by
    rw [← List.forall₂_eq_eq_eq, List.forall₂_map_left_iff, List.forall₂_map_right_iff]
    exact hsame.hosts.imp fun _ _ h => congrArg Host.toJson h.redacted
  simp only [Settings.view, hsame.server, hsame.polling, hsame.publishing, hbroker, hsame.actions,
    hhosts]

namespace Api

variable {ε ε' : Type}

-- Two verdicts that tell a client the same, if the hosts answer the same.
inductive Verdict.SameButLogin : Verdict → Verdict → Prop
  | answer (response : Response) : SameButLogin (.answer response) (.answer response)
  | order {host host' : Host} (hosts : host.SameButLogin host') (action : Action)
      (command : String) (timeout : Nat) :
      SameButLogin (.order ⟨host, action, command, timeout⟩)
        (.order ⟨host', action, command, timeout⟩)

-- Executors that give the same answers whatever the logins of the hosts are.
structure Executor.Alike (executor : Executor ε) (executor' : Executor ε')
    (related : ε → ε' → Prop) : Prop where
  reply : ∀ {s s'}, related s s' → ∀ {host host' : Host}, host.SameButLogin host' →
    ∀ command timeout,
      (executor.execute host command timeout s).1 = (executor'.execute host' command timeout s').1
  next : ∀ {s s'}, related s s' → ∀ {host host' : Host}, host.SameButLogin host' →
    ∀ command timeout,
      related (executor.execute host command timeout s).2
        (executor'.execute host' command timeout s').2

theorem find?_sameButLogin {hosts hosts' : List Host}
    (h : List.Forall₂ Host.SameButLogin hosts hosts') (name : String) :
    Option.Rel Host.SameButLogin (hosts.find? (·.name = name)) (hosts'.find? (·.name = name)) := by
  induction h with
  | nil => exact .none
  | @cons host host' rest rest' hhost _ ih =>
      by_cases hname : host.name = name
      · have hname' : host'.name = name := hhost.name ▸ hname
        simp only [List.find?_cons, hname, hname', decide_true]
        exact .some hhost
      · have hname' : host'.name ≠ name := hhost.name ▸ hname
        simpa only [List.find?_cons, hname, hname', decide_false] using ih

section Verdict

variable {settings settings' : Settings} (h : settings.SameButLogins settings')

include h

theorem order_sameButLogin (host action : String) (asked : Option String) :
    (∃ refusal, order settings host action asked = .error refusal ∧
      order settings' host action asked = .error refusal) ∨
    ∃ o o', order settings host action asked = .ok o ∧ order settings' host action asked = .ok o' ∧
      (Verdict.order o).SameButLogin (.order o') := by
  have hfind := find?_sameButLogin h.hosts host
  revert hfind
  unfold order
  rw [← h.actions]
  generalize settings.hosts.find? _ = found, settings'.hosts.find? _ = found'
  intro hfind
  split
  · exact .inl ⟨_, rfl, rfl⟩
  · cases Action.ofName? action with
    | none => exact .inl ⟨_, rfl, rfl⟩
    | some a =>
        dsimp only
        split
        · exact .inl ⟨_, rfl, rfl⟩
        · cases hfind with
          | none => exact .inl ⟨_, rfl, rfl⟩
          | some hhost =>
              cases a.command? asked with
              | none => exact .inl ⟨_, rfl, rfl⟩
              | some command => exact .inr ⟨_, _, rfl, rfl, .order hhost a command _⟩

theorem orderVerdict_sameButLogin (request : Request) (host action : String) :
    (orderVerdict settings request host action).SameButLogin
      (orderVerdict settings' request host action) := by
  unfold orderVerdict
  split
  · next name verb _ _ =>
      split
      · exact .answer _
      · next asked _ =>
          rcases order_sameButLogin h name verb asked with
            ⟨refusal, he, he'⟩ | ⟨o, o', he, he', ho⟩
          · rw [he, he']; exact .answer _
          · rw [he, he']; exact ho
  · exact .answer _

theorem verdict_sameButLogin (store : Store) (request : Request) :
    (verdict settings store request).SameButLogin (verdict settings' store request) := by
  unfold verdict
  split
  · exact .answer _
  · split
    · exact .answer _
    · next route _ =>
        split
        · cases route with
          | action host action => exact orderVerdict_sameButLogin h request host action
          | settings => simp only [routeVerdict, h.view]; exact .answer _
          | host name => simp only [routeVerdict]; split <;> exact .answer _
          | home | version | hosts | stream => exact .answer _
        · exact .answer _

end Verdict

section Run

variable {executor : Executor ε} {executor' : Executor ε'} {related : ε → ε' → Prop}
  (halike : executor.Alike executor' related) {settings settings' : Settings}
  (h : settings.SameButLogins settings') (store : Store)

include halike h

theorem respond_sameButLogin (request : Request) {s : ε} {s' : ε'} (hs : related s s') :
    (respond executor settings store request s).1.response =
        (respond executor' settings' store request s').1.response ∧
      related (respond executor settings store request s).2
        (respond executor' settings' store request s').2 := by
  have hverdict := verdict_sameButLogin h store request
  unfold respond
  revert hverdict
  generalize verdict settings store request = v, verdict settings' store request = v'
  intro hverdict
  cases hverdict with
  | answer response => exact ⟨rfl, hs⟩
  | order hosts action command timeout =>
      refine ⟨?_, halike.next hs hosts command timeout⟩
      simp only [Order.response, halike.reply hs hosts command timeout, hosts.name]

theorem respondAll_sameButLogin (requests : List Request) {s : ε} {s' : ε'} (hs : related s s') :
    (respondAll executor settings store requests s).1.map (·.response) =
      (respondAll executor' settings' store requests s').1.map (·.response) := by
  induction requests generalizing s s' with
  | nil => rfl
  | cons request rest ih =>
      obtain ⟨hresponse, hnext⟩ := respond_sameButLogin halike h store request hs
      simp only [respondAll, List.map_cons, hresponse, ih hnext]

end Run

-- No client learns a login: neither from the settings that are shown nor from any
-- run of requests. No user of the machine learns a password from the arguments of
-- a program.
theorem logins_kept_secret {settings settings' : Settings} (h : settings.SameButLogins settings')
    {executor : Executor ε} {executor' : Executor ε'} {related : ε → ε' → Prop}
    (halike : executor.Alike executor' related) {s : ε} {s' : ε'} (hs : related s s')
    (store : Store) (requests : List Request) :
    settings.view = settings'.view ∧
    (respondAll executor settings store requests s).1.map (·.response) =
      (respondAll executor' settings' store requests s').1.map (·.response) ∧
    ∀ (client : Ssh.Client) (host : Host) (password password' : String),
      client.commandLine { host with password := some password } =
        client.commandLine { host with password := some password' } :=
  ⟨h.view, respondAll_sameButLogin halike h store requests hs, fun _ _ _ _ => rfl⟩

-- One host and one broker, to be logged in to like this.
def oneHost (address username password key login : String) (brokerPassword : Option String) :
    Settings where
  server := ⟨8081, "0.0.0.0"⟩
  polling := ⟨30, 60, 10, none⟩
  publishing := ⟨[], none, 16⟩
  broker := some ⟨"broker.lan", 1883, some login, brokerPassword, "stats", "stats", "homeassistant"⟩
  actions := ⟨true, true, 600⟩
  hosts := [⟨"web", address, 22, username, some password, some key⟩]

-- Repeats its orders and counts them.
def echo : Executor Nat where
  execute host command _ count :=
    (⟨40, .ok ⟨host.name ++ ": " ++ command, Nat.repr count, some 0⟩⟩, count + 1)

theorem logins_kept_secret_echo :
    let settings := oneHost "10.0.0.5" "root" "hunter2" "/root/id" "stats" none
    let settings' := oneHost "web.lan" "admin" "letmein" "/home/admin/id" "other" (some "secret")
    let requests : List Request := [⟨"GET", "/api/config", none, ""⟩,
      ⟨"POST", "/api/hosts/web/actions/run", some "application/json", "[\" id \"]"⟩]
    settings.SameButLogins settings' ∧ settings.hosts.map (·.target) = ["root@10.0.0.5"] ∧
    settings'.hosts.map (·.target) = ["admin@web.lan"] ∧
    (respondAll echo settings Store.inMemory requests 0).1.map (fun x => x.orders.map (·.command)) =
      [[], ["id"]] ∧
    (respondAll echo settings Store.inMemory requests 0).1.map (·.response) =
      (respondAll echo settings' Store.inMemory requests 0).1.map (·.response) := by
  intro settings settings' requests
  have hsame : settings.SameButLogins settings' :=
    ⟨rfl, rfl, rfl, .some ⟨rfl, rfl, rfl, rfl, rfl, rfl⟩, rfl, .cons ⟨rfl, rfl, rfl, rfl⟩ .nil⟩
  have halike : echo.Alike echo (· = ·) := by
    constructor
    · rintro s _ rfl host host' hhost command timeout
      simp only [echo, hhost.name]
    · rintro s _ rfl host host' hhost command timeout
      rfl
  exact ⟨hsame, by decide, by decide, by decide +kernel,
    (logins_kept_secret hsame halike rfl Store.inMemory requests).2.1⟩

end Api

end HostTelemetry
