import HostTelemetry.Proofs.Poll.Replay
import HostTelemetry.Proofs.Poll.Visits
import HostTelemetry.Proofs.Publish.Delivery

namespace HostTelemetry.Poll

open Publish (Link Message brokerSink)
open Relation (ReflTransGen)

section Broker

-- What the calls of a poller put into the queue of a broker, in whatever state it is: an
-- announcement the messages of its keys up to some key, which is the last one if the
-- call succeeds, a payload one message if the call succeeds and none otherwise. A link
-- that is found without a connection takes nothing.
structure Enqueues (b : Broker) : Prop where
  announced : ∀ host category keys (l : Link), ∃ j ≤ keys.length,
    ((brokerSink b).announce host category keys l).2.accepted = l.accepted ++
      (keys.take j).map (fun key => ⟨Publish.discoveryTopic b.discoveryPrefix host key, true,
        (Publish.discoveryConfig b.topicPrefix host key).render⟩) ∧
    (((brokerSink b).announce host category keys l).1 = .ok () ↔ j = keys.length)
  published : ∀ host payload (l : Link),
    ((brokerSink b).publish host payload l).1 = .ok () ∧
      ((brokerSink b).publish host payload l).2.accepted = l.accepted ++
        [⟨Publish.stateTopic b.topicPrefix host, false, (Json.object payload).render⟩] ∨
    ((brokerSink b).publish host payload l).1 ≠ .ok () ∧
      ((brokerSink b).publish host payload l).2.accepted = l.accepted
  unconnected : ∀ m (l : Link), l.found.isConnected = false →
    (Link.send b m l).1 = .error (Link.notConnectedMessage b) ∧
      (Link.send b m l).2.accepted = l.accepted

variable (b : Broker)

theorem brokerSink_enqueues : Enqueues b where
  announced host category keys l := by
    obtain ⟨j, hj, haccepted, hok⟩ :=
      Link.sendAll_accepted b (keys.map (Link.discoveryMessage b host)) l
    rw [List.length_map] at hj hok
    rw [← List.map_take] at haccepted
    exact ⟨j, hj, haccepted, hok⟩
  published host payload l := Link.send_accepted b (Link.stateMessage b host payload) l
  unconnected m l hdown := by
    rw [Link.send, if_pos (by rw [hdown]; rfl)]
    exact ⟨rfl, l.advance_accepted⟩

theorem perform_steps (event : Event) (l : Link) :
    ReflTransGen Link.Step l (event.perform (brokerSink b) l).2 := by
  cases event with
  | announce host category keys ok => exact Link.sendAll_steps b _ l
  | publish host payload ok => exact Link.send_steps b _ l

theorem perform_grows (event : Event) (l : Link) :
    l.accepted <+: (event.perform (brokerSink b) l).2.accepted := by
  cases event with
  | announce host category keys ok =>
      obtain ⟨j, -, h, -⟩ := (brokerSink_enqueues b).announced host category keys l
      exact ⟨_, h.symm⟩
  | publish host payload ok =>
      rcases (brokerSink_enqueues b).published host payload l with ⟨-, h⟩ | ⟨-, h⟩
      · exact ⟨_, h.symm⟩
      · exact h ▸ List.prefix_rfl

variable {b} {start final : Link} {events : List Event}

theorem Replays.steps (h : Replays (brokerSink b) start events final) :
    ReflTransGen Link.Step start final := by
  induction h with
  | nil => exact .refl
  | @concat events l _ event _ ih => exact ih.trans (perform_steps b event l)

-- Every key of an announcement that succeeded is on its way.
theorem Replays.mem_accepted (h : Replays (brokerSink b) start events final) {host : String}
    {category : Category} {keys : List String} (he : .announce host category keys true ∈ events)
    {key : String} (hk : key ∈ keys) :
    ⟨Publish.discoveryTopic b.discoveryPrefix host key, true,
      (Publish.discoveryConfig b.topicPrefix host key).render⟩ ∈ final.accepted := by
  induction h with
  | nil => cases he
  | @concat events l _ event answered ih =>
      rcases List.mem_append.mp he with hpast | hnow
      · exact (perform_grows b event l).subset (ih hpast)
      · obtain rfl := List.mem_singleton.mp hnow
        obtain ⟨j, -, haccepted, hok⟩ := (brokerSink_enqueues b).announced host category keys l
        obtain rfl := hok.mp (Publish.succeeded_iff.mp answered.symm)
        rw [List.take_length] at haccepted
        exact haccepted ▸ List.mem_append_right _ (List.mem_map_of_mem hk)

end Broker

-- The connection breaks while the first of three keys is put into the queue; it is back
-- for the second tick, in which all of them are announced again.
def flakyLink : Link :=
  ⟨false, [], [], [⟨[.connected], [.disconnected]⟩, ⟨[], []⟩, ⟨[], []⟩,
    ⟨[.drained 1, .connected], []⟩]⟩

def homeBroker : Broker :=
  ⟨"broker.lan", 1883, none, none, "telemetry", "vserver_ssh", "homeassistant"⟩

def flakyTicks : List Input :=
  let answers : List (Host × Command.Reply) :=
    [(⟨"web", "10.0.0.1", 22, "root", none, none⟩, ⟨40, .ok ⟨"\x7b\x7d", "", some 0⟩⟩)]
  [⟨0, 1700000000000, answers, none⟩, ⟨30000, 1700000030000, answers, none⟩]

end HostTelemetry.Poll
