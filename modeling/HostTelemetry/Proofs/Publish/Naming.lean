import HostTelemetry.Proofs.Publish.Identity
import HostTelemetry.Proofs.Snapshot.Spelling

namespace HostTelemetry.Poll

theorem shown_ids_plain (plan : Plan) (input : Input) (s : Sampler)
    (answer : Host × Command.Reply) (category : Category) :
    ∀ id ∈ (shown plan input s answer).1.ids category, Text.IsPlain id := by
  unfold shown
  cases h : (sample plan input.start s answer.1.name answer.2).1 with
  | error e => exact Snapshot.fallback_ids_plain category
  | ok snapshot =>
      unfold sample at h
      split at h
      · cases h
      · obtain ⟨r, -, rfl⟩ := Sampler.normalize_eq_ok_iff.mp h
        exact Snapshot.snapshotOf_ids_plain r _ category

theorem isKey_of_announced {σ : Type} {plan : Plan} {sink : Publish.Sink σ}
    {inputs : List Input} {s : State σ} {host : String} {category : Category}
    {keys : List String} {ok : Bool}
    (he : Event.announce host category keys ok ∈ eventsOf (history plan sink inputs s)) :
    ∀ key ∈ keys, Category.IsKey key := by
  intro key hk
  obtain ⟨input, -, hfrom⟩ := history_event_from he
  obtain ⟨answer, -, -, sampler, hkeys⟩ := announce_of_from hfrom
  obtain ⟨id, hid, hk⟩ := hkeys key hk
  have hwell := shown_wellKeyed plan input sampler answer
  exact Category.isKey_of_mem (hwell.identifies category id hid)
    (shown_ids_plain plan input sampler answer category id hid) hk

end HostTelemetry.Poll

namespace HostTelemetry.Publish

open Text (IsPlain isPlain_append slug_plain)

-- The parts of a topic, as a broker takes it apart.
def levels (topic : String) : List String :=
  (topic.toList.splitOn '/').map String.ofList

theorem levels_append (first rest : String) :
    levels (first ++ "/" ++ rest) = levels first ++ levels rest := by
  have hchars : (first ++ "/" ++ rest).toList = first.toList ++ '/' :: rest.toList := by simp
  rw [levels, hchars, List.splitOn_append_cons_self, List.map_append, levels, levels]

theorem levels_of_plain {s : String} (h : IsPlain s) : levels s = [s] := by
  rw [levels, List.splitOn_eq_singleton (h.not_mem (by decide)), List.map_singleton,
    String.ofList_toList]

theorem levels_stateTopic (topicPrefix host : String) :
    levels (stateTopic topicPrefix host) = levels topicPrefix ++ [Text.slug host, "state"] := by
  have htopic : stateTopic topicPrefix host =
      topicPrefix ++ "/" ++ (Text.slug host ++ "/" ++ "state") := by
    simp only [stateTopic, String.append_assoc]
    rfl
  have hlast : levels "state" = ["state"] := levels_of_plain (by decide)
  rw [htopic, levels_append, levels_append, levels_of_plain (slug_plain host), hlast]
  rfl

theorem levels_discoveryTopic {discoveryPrefix host key : String}
    (h : IsPlain (uniqueId host key)) :
    levels (discoveryTopic discoveryPrefix host key) =
      levels discoveryPrefix ++ ["sensor", uniqueId host key, "config"] := by
  have htopic : discoveryTopic discoveryPrefix host key =
      discoveryPrefix ++ "/" ++ ("sensor" ++ "/" ++ (uniqueId host key ++ "/" ++ "config")) := by
    simp only [discoveryTopic, String.append_assoc]
    rfl
  have hfirst : levels "sensor" = ["sensor"] := levels_of_plain (by decide)
  have hlast : levels "config" = ["config"] := levels_of_plain (by decide)
  rw [htopic, levels_append, levels_append, levels_append, levels_of_plain h, hfirst, hlast]
  rfl

-- Whatever a host is called and whatever it prints, a topic has the levels it is meant
-- to have, and a template names its value by a bare word.
theorem announced_key_plain {σ : Type} (plan : Poll.Plan) (sink : Sink σ)
    {inputs : List Poll.Input} {s : Poll.State σ} {host : String} {category : Category}
    {keys : List String} {ok : Bool}
    (he : Poll.Event.announce host category keys ok ∈
      Poll.eventsOf (Poll.history plan sink inputs s))
    (topicPrefix discoveryPrefix : String) :
    (∀ name, IsPlain (Text.slug name) ∧
      levels (stateTopic topicPrefix name) =
        levels topicPrefix ++ [Text.slug name, "state"]) ∧
    ∀ key ∈ keys, Category.IsKey key ∧
      IsPlain (uniqueId host key) ∧
      levels (discoveryTopic discoveryPrefix host key) =
        levels discoveryPrefix ++ ["sensor", uniqueId host key, "config"] ∧
      ∃ default ∈ ["''", "0"],
        (discoveryConfig topicPrefix host key).field? "value_template" =
          some (.text ("\x7b\x7b value_json." ++ key ++ " | default(" ++ default ++
            ") \x7d\x7d")) := by
  refine ⟨fun name => ⟨slug_plain name, levels_stateTopic topicPrefix name⟩, fun key hk => ?_⟩
  have hkey := Poll.isKey_of_announced he key hk
  have hid : IsPlain (uniqueId host key) :=
    isPlain_append.mpr ⟨isPlain_append.mpr ⟨slug_plain host, by decide⟩, hkey.1⟩
  refine ⟨hkey, hid, levels_discoveryTopic hid, placeholder (Presentation.ofKey key), ?_,
    field?_valueTemplate topicPrefix host key⟩
  unfold placeholder
  split <;> decide

-- A host whose names try to leave their place.
def hostileTick : Poll.Input where
  start := 0
  timestamp := 1700000000000
  answers := [(⟨"a/b#", "10.0.0.1", 22, "root", none, none⟩, ⟨40, .ok
    ⟨"\x7b\"container_stats\":[\x7b\"name\":\"We b/+\x7d\x7d\"\x7d],\"sensors\":\x7b\"\":\x7b\"Ä/#\":1\x7d\x7d\x7d",
      "", some 0⟩⟩)]
  interruption := none

def hostileEvents : List Poll.Event :=
  Poll.eventsOf (Poll.history ⟨20000, "stats", []⟩ logSink [hostileTick]
    (.start [] Store.inMemory [] (Stream.Channel.ofCapacity 16)))

theorem announced_key_plain_hostile :
    ∃ category keys, Poll.Event.announce "a/b#" category keys true ∈ hostileEvents ∧
      "container_we_b__cpu" ∈ keys ∧ Category.IsKey "container_we_b__cpu" ∧
      levels (discoveryTopic "home/assistant" "a/b#" "container_we_b__cpu") =
        ["home", "assistant", "sensor", "a_b__container_we_b__cpu", "config"] := by
  have hannounced : "container_we_b__cpu" ∈ Poll.announcedKeys "a/b#" hostileEvents := by
    decide +kernel
  obtain ⟨category, keys, he, hk⟩ := Poll.mem_announcedKeys hannounced
  obtain ⟨hkey, -, hlevels, -⟩ :=
    (announced_key_plain ⟨20000, "stats", []⟩ logSink he "stats" "home/assistant").2 _ hk
  exact ⟨category, keys, he, hk, hkey, hlevels.trans (by decide +kernel)⟩

end HostTelemetry.Publish
