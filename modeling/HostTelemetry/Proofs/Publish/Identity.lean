import HostTelemetry.Poll.Setup
import HostTelemetry.Proofs.Poll.Subjects
import HostTelemetry.Proofs.Settings.Names
import HostTelemetry.Publish.Topic
import Mathlib.Data.List.Infix

namespace HostTelemetry.Publish

open Category (HasForm)

-- A key that a poller with these settings may come to announce for a host, given what
-- the hosts print and how the sink answers.
inductive Announceable (settings : Settings) (host key : String) : Prop
  | intro {σ : Type} {sink : Sink σ} {start : σ} {store : Store} {files : Files}
      {channel : Stream.Channel Report} {inputs : List Poll.Input} {category : Category}
      {keys : List String} {ok : Bool}
      (asked : ∀ input ∈ inputs, input.answers.map Prod.fst = settings.hosts)
      (announced : Poll.Event.announce host category keys ok ∈ Poll.eventsOf
        (Poll.history (.ofSettings settings) sink inputs (.start start store files channel)))
      (mem : key ∈ keys)

theorem Announceable.subject {settings : Settings} {host key : String}
    (h : Announceable settings host key) :
    (∃ configured ∈ settings.hosts, configured.name = host) ∧
      ∃ category : Category, category.HasForm key := by
  cases h with
  | @intro _ _ _ _ _ _ inputs _ _ _ hasked he hk =>
      have hhosts : ∀ input ∈ inputs, ∀ answer ∈ input.answers,
          answer.1.name ∈ settings.hosts.map (·.name) := by
        intro input hinput answer hanswer
        rw [← hasked input hinput, List.map_map]
        exact List.mem_map_of_mem hanswer
      obtain ⟨hhost, hform⟩ := Poll.history_about _ _ hhosts _ _ he
      exact ⟨List.mem_map.mp hhost, _, hform _ hk⟩

-- The words that the keys of containers, disks and sensors begin with.
def leadingWords : List String := ["container", "disk", "sensor"]

-- The slug of the second host goes on where that of the first one ends, with the start
-- of a key of the first host. What is left of this key is a key of the second host.
def Shadows (host key other otherKey : String) : Prop :=
  ∃ rest, (∃ word ∈ leadingWords, rest = word ∨ (word ++ "_").toList <+: rest.toList) ∧
    Text.slug other = Text.slug host ++ "_" ++ rest ∧ key = rest ++ "_" ++ otherKey

theorem Shadows.uniqueId_eq {host key other otherKey : String}
    (h : Shadows host key other otherKey) : uniqueId host key = uniqueId other otherKey := by
  obtain ⟨rest, -, hslug, rfl⟩ := h
  simp only [uniqueId, hslug, String.append_assoc]

-- What stands behind an underscore of a metric is no key.
theorem not_hasForm_of_metric {metric key : String} (hm : metric ∈ metricKeys)
    (hs : '_' :: key.toList <:+ metric.toList) (category : Category) :
    ¬category.HasForm key := by
  have hnone : ∀ metric ∈ metricKeys, ∀ tail ∈ metric.toList.tails, tail.head? = some '_' →
      ∀ category ∈ Category.all, ¬category.HasForm (String.ofList tail.tail) := by decide +kernel
  have hall : category ∈ Category.all := by cases category <;> decide
  have hkey := hnone metric hm _ ((List.mem_tails _ _).mpr hs) rfl category hall
  rwa [List.tail_cons, String.ofList_toList] at hkey

-- Two texts with an underscore in each are the same: either they are parted alike, or
-- the one underscore stands somewhere after the other.
theorem append_underscore_cases {a b c d : List Char} (h : a ++ '_' :: b = c ++ '_' :: d) :
    (a = c ∧ b = d) ∨ (∃ rest, c = a ++ '_' :: rest ∧ b = rest ++ '_' :: d) ∨
      ∃ rest, a = c ++ '_' :: rest ∧ d = rest ++ '_' :: b := by
  rcases List.append_eq_append_iff.mp h with ⟨more, rfl, hb⟩ | ⟨more, rfl, hd⟩
  · cases more with
    | nil => exact .inl ⟨by simp, by simpa using hb⟩
    | cons x rest =>
        obtain ⟨rfl, rfl⟩ := List.cons_eq_cons.mp hb
        exact .inr (.inl ⟨rest, rfl, rfl⟩)
  · cases more with
    | nil => exact .inl ⟨by simp, by simpa using hd.symm⟩
    | cons x rest =>
        obtain ⟨rfl, rfl⟩ := List.cons_eq_cons.mp hd
        exact .inr (.inr ⟨rest, rfl, rfl⟩)

theorem leadingWord_of_hasForm {category : Category} {key : String} (h : category.HasForm key)
    (hm : key ∉ metricKeys) : ∃ word ∈ leadingWords, (word ++ "_").toList <+: key.toList := by
  cases category with
  | metric => exact absurd h hm
  | container => exact ⟨"container", by decide, h.2.1⟩
  | disk => exact ⟨"disk", by decide, h.2.1⟩
  | sensor => exact ⟨"sensor", by decide, h.2⟩

-- No leading word has an underscore, so it is not cut by the one before a key.
theorem leadingWord_of_append {category other : Category} {rest otherKey : String}
    (h : category.HasForm (rest ++ "_" ++ otherKey)) (hother : other.HasForm otherKey) :
    ∃ word ∈ leadingWords, rest = word ∨ (word ++ "_").toList <+: rest.toList := by
  have hkey : (rest ++ "_" ++ otherKey).toList = rest.toList ++ '_' :: otherKey.toList := by simp
  have hm : rest ++ "_" ++ otherKey ∉ metricKeys := fun hm =>
    not_hasForm_of_metric hm (hkey ▸ List.suffix_append _ _) other hother
  obtain ⟨word, hword, more, hlead⟩ := leadingWord_of_hasForm h hm
  have hnone : ∀ word ∈ leadingWords, '_' ∉ word.toList := by decide
  have hparts : word.toList ++ '_' :: more = rest.toList ++ '_' :: otherKey.toList := by
    rw [← hkey, ← hlead]
    simp
  refine ⟨word, hword, ?_⟩
  rcases append_underscore_cases hparts with ⟨hsame, -⟩ | ⟨tail, hrest, -⟩ | ⟨tail, hcut, -⟩
  · exact .inl (String.toList_inj.mp hsame.symm)
  · refine .inr ⟨tail, ?_⟩
    rw [hrest]
    simp
  · exact absurd (hcut ▸ by simp) (hnone word hword)

theorem shadows_of_append {host key other otherKey : String} {category category' : Category}
    (h : category.HasForm key) (h' : category'.HasForm otherKey) {rest : List Char}
    (hslug : (Text.slug other).toList = (Text.slug host).toList ++ '_' :: rest)
    (hkey : key.toList = rest ++ '_' :: otherKey.toList) : Shadows host key other otherKey := by
  obtain rfl : key = String.ofList rest ++ "_" ++ otherKey := by
    rw [← String.toList_inj, hkey]
    simp
  refine ⟨String.ofList rest, leadingWord_of_append h h', ?_, rfl⟩
  rw [← String.toList_inj, hslug]
  simp

theorem uniqueId_eq_iff {host key other otherKey : String} {category category' : Category}
    (h : category.HasForm key) (h' : category'.HasForm otherKey)
    (hslug : Text.slug host = Text.slug other → host = other) :
    uniqueId host key = uniqueId other otherKey ↔ (host = other ∧ key = otherKey) ∨
      Shadows host key other otherKey ∨ Shadows other otherKey host key := by
  constructor
  · intro he
    have hchars := congrArg String.toList he
    simp only [uniqueId, String.toList_append, List.append_assoc] at hchars
    rcases append_underscore_cases hchars with ⟨hs, hk⟩ | ⟨rest, hs, hk⟩ | ⟨rest, hs, hk⟩
    · exact .inl ⟨hslug (String.toList_inj.mp hs), String.toList_inj.mp hk⟩
    · exact .inr (.inl (shadows_of_append h h' hs hk))
    · exact .inr (.inr (shadows_of_append h' h hs hk))
  · rintro (⟨rfl, rfl⟩ | hshadows | hshadows)
    · rfl
    · exact hshadows.uniqueId_eq
    · exact hshadows.uniqueId_eq.symm

theorem discoveryTopic_inj {discoveryPrefix host key other otherKey : String} :
    discoveryTopic discoveryPrefix host key = discoveryTopic discoveryPrefix other otherKey ↔
      uniqueId host key = uniqueId other otherKey := by
  simp [discoveryTopic]

theorem find?_optionField {name field : String} (hne : field ≠ name) (value : Option String) :
    Keyed.find? name (Json.optionField field value).reverse = none := by
  cases value with
  | none => rfl
  | some text => simp [Json.optionField, Keyed.find?, hne]

-- What an announcement says of a value, its unit and classes apart.
theorem field?_fixed (topicPrefix host key : String) {name : String}
    (h : name ∉ ["unit_of_measurement", "device_class", "state_class"]) :
    (discoveryConfig topicPrefix host key).field? name =
      Keyed.find? name [("device", .ofKeyed [("identifiers", Json.texts [deviceId host]),
        ("name", .text host)]), ("unique_id", .text (uniqueId host key)),
        ("value_template", .text (valueTemplate key (Presentation.ofKey key))),
        ("state_topic", .text (stateTopic topicPrefix host)), ("name", .text (host ++ " " ++ key))] := by
  simp only [List.mem_cons, List.not_mem_nil, or_false, not_or] at h
  simp only [discoveryConfig, Json.ofKeyed, Json.field?, Keyed.find?_ofList, List.reverse_append,
    Keyed.find?_append]
  rw [find?_optionField (Ne.symm h.1), find?_optionField (Ne.symm h.2.1),
    find?_optionField (Ne.symm h.2.2)]
  simp

theorem field?_uniqueId (topicPrefix host key : String) :
    (discoveryConfig topicPrefix host key).field? "unique_id" =
      some (.text (uniqueId host key)) := by
  rw [field?_fixed topicPrefix host key (by decide)]
  simp [Keyed.find?]

theorem field?_valueTemplate (topicPrefix host key : String) :
    (discoveryConfig topicPrefix host key).field? "value_template" =
      some (.text (valueTemplate key (Presentation.ofKey key))) := by
  rw [field?_fixed topicPrefix host key (by decide)]
  simp [Keyed.find?]

-- Accepted settings keep the slugs of the hosts apart, which is not enough for the ids
-- of their values: two of them are the same just if the one host's name goes on into a
-- key of the other. A name like this ends in `_container`, `_disk` or `_sensor` or goes
-- on behind one of them.
theorem discovery_eq_iff {settings : Settings} (hvalid : settings.validate = .ok ())
    {host key other otherKey : String} (h : Announceable settings host key)
    (h' : Announceable settings other otherKey) (discoveryPrefix topicPrefix : String) :
    (discoveryTopic discoveryPrefix host key = discoveryTopic discoveryPrefix other otherKey ↔
      (host = other ∧ key = otherKey) ∨ Shadows host key other otherKey ∨
        Shadows other otherKey host key) ∧
    ((discoveryConfig topicPrefix host key).field? "unique_id" =
        (discoveryConfig topicPrefix other otherKey).field? "unique_id" ↔
      (host = other ∧ key = otherKey) ∨ Shadows host key other otherKey ∨
        Shadows other otherKey host key) := by
  obtain ⟨⟨configured, hmem, rfl⟩, category, hform⟩ := h.subject
  obtain ⟨⟨configured', hmem', rfl⟩, category', hform'⟩ := h'.subject
  have hid := uniqueId_eq_iff hform hform' fun he =>
    congrArg Host.name (Settings.slug_injOn hvalid hmem hmem' he)
  rw [discoveryTopic_inj, field?_uniqueId, field?_uniqueId, Option.some.injEq, Json.text.injEq]
  exact ⟨hid, hid⟩

-- The second host is called like a container of the first one.
def nestedNames : Settings where
  server := ⟨8081, "0.0.0.0"⟩
  polling := ⟨30, 60, 10, none⟩
  publishing := ⟨[], none, 16⟩
  broker := none
  actions := ⟨false, false, 600⟩
  hosts := [⟨"a", "10.0.0.1", 22, "root", none, none⟩,
    ⟨"a_container_web", "10.0.0.2", 22, "root", none, none⟩]

def nestedTick : Poll.Input where
  start := 0
  timestamp := 1700000000000
  answers := nestedNames.hosts.zip
    [⟨40, .ok ⟨"\x7b\"container_stats\":[\x7b\"name\":\"web\"\x7d]\x7d", "", some 0⟩⟩,
      ⟨40, .ok ⟨"\x7b\x7d", "", some 0⟩⟩]
  interruption := none

def nestedEvents : List Poll.Event :=
  Poll.eventsOf (Poll.history (.ofSettings nestedNames) logSink [nestedTick]
    (.start [] Store.inMemory [] (Stream.Channel.ofCapacity 16)))

theorem validate_nestedNames : nestedNames.validate = .ok () := by decide +kernel

theorem announceable_nestedNames {host key : String}
    (h : key ∈ Poll.announcedKeys host nestedEvents) : Announceable nestedNames host key := by
  obtain ⟨category, keys, he, hk⟩ := Poll.mem_announcedKeys h
  have hasked : ∀ input ∈ [nestedTick], input.answers.map Prod.fst = nestedNames.hosts := by
    intro input hinput
    rw [List.mem_singleton.mp hinput]
    rfl
  exact .intro hasked he hk

theorem discovery_eq_iff_sameKey :
    nestedNames.validate = .ok () ∧ Announceable nestedNames "a" "cpu" ∧
    Announceable nestedNames "a_container_web" "cpu" ∧
    discoveryTopic "homeassistant" "a" "cpu" ≠
      discoveryTopic "homeassistant" "a_container_web" "cpu" := by
  have h : Announceable nestedNames "a" "cpu" :=
    announceable_nestedNames (by decide +kernel)
  have h' : Announceable nestedNames "a_container_web" "cpu" :=
    announceable_nestedNames (by decide +kernel)
  refine ⟨validate_nestedNames, h, h', fun he => ?_⟩
  rcases (discovery_eq_iff validate_nestedNames h h' "homeassistant" "stats").1.mp he with
    ⟨hhost, -⟩ | ⟨rest, -, -, hk⟩ | ⟨rest, -, -, hk⟩
  · exact absurd hhost (by decide)
  · have hlength := congrArg String.length hk
    simp at hlength
  · have hlength := congrArg String.length hk
    simp at hlength

-- Two values of two hosts under one id, with settings that are accepted.
theorem discovery_clash :
    nestedNames.validate = .ok () ∧ Announceable nestedNames "a" "container_web_cpu" ∧
    Announceable nestedNames "a_container_web" "cpu" ∧
    ("a", "container_web_cpu") ≠ ("a_container_web", "cpu") ∧
    discoveryTopic "homeassistant" "a" "container_web_cpu" =
      discoveryTopic "homeassistant" "a_container_web" "cpu" ∧
    (discoveryConfig "stats" "a" "container_web_cpu").field? "unique_id" =
      (discoveryConfig "stats" "a_container_web" "cpu").field? "unique_id" := by
  have hid : uniqueId "a" "container_web_cpu" = uniqueId "a_container_web" "cpu" := by
    decide +kernel
  exact ⟨validate_nestedNames, announceable_nestedNames (by decide +kernel),
    announceable_nestedNames (by decide +kernel), by decide, discoveryTopic_inj.mpr hid,
    by rw [field?_uniqueId, field?_uniqueId, hid]⟩

end HostTelemetry.Publish
