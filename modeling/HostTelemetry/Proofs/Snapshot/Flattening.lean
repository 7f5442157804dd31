import HostTelemetry.Proofs.Snapshot.Identifiers
import HostTelemetry.Record.Basic

namespace HostTelemetry.Snapshot

-- The names under which the containers and the disks are listed as a whole.
def listKeys : List String := ["container_stats", "disk_stats"]

theorem metrics_keys (s : Snapshot) : s.metrics.map Prod.fst = metricKeys := rfl

theorem entries_keys (s : Snapshot) :
    s.entries.map Prod.fst = Category.all.flatMap s.entityKeys ++ listKeys := by
  have hcontainers : (s.containerStats.flatMap Container.entries).map Prod.fst =
      s.entityKeys .container := by
    simp only [entityKeys, ids, containerKeys, List.map_flatMap, List.flatMap_map]
    rfl
  have hdisks : (s.diskStats.flatMap Disk.entries).map Prod.fst = s.entityKeys .disk := by
    simp only [entityKeys, ids, diskKeys, List.map_flatMap, List.flatMap_map]
    rfl
  have hsensors : (s.sensors.map fun sensor => (sensor.1, Json.ofFloat sensor.2)).map Prod.fst =
      s.entityKeys .sensor := by
    simp only [entityKeys, ids, sensorKeys, Keyed.keys, List.map_map, List.flatMap_map]
    exact List.map_eq_flatMap
  have hmetrics : s.metrics.map Prod.fst = s.entityKeys .metric := by
    simp only [entityKeys, ids, Category.entityKeys, metrics_keys, List.flatMap_singleton']
  simp only [entries, List.map_append, hcontainers, hdisks, hsensors, hmetrics, Category.all,
    List.flatMap_cons, List.flatMap_nil, List.append_nil, List.append_assoc]
  rfl

theorem not_hasForm_listKey {key : String} (hk : key ∈ listKeys) (category : Category) :
    ¬category.HasForm key := by
  cases category <;> revert key <;> decide

theorem not_hasForm_ownName {name : String} (hn : name ∈ Record.ownNames) (category : Category) :
    ¬category.HasForm name := by
  cases category <;> revert name <;> decide

theorem WellKeyed.nodup_entries_keys {s : Snapshot} (h : s.WellKeyed) :
    (s.entries.map Prod.fst).Nodup := by
  rw [entries_keys]
  refine h.nodup_entityKeys.append (by decide) fun key hk hl => ?_
  obtain ⟨category, -, hk⟩ := List.mem_flatMap.mp hk
  exact not_hasForm_listKey hl category (h.hasForm hk)

theorem WellKeyed.keys_values_perm {s : Snapshot} (h : s.WellKeyed) :
    s.values.keys.Perm (Category.all.flatMap s.entityKeys ++ listKeys) :=
  s.entries_keys ▸ Keyed.keys_ofList_perm h.nodup_entries_keys

theorem WellKeyed.find?_values {s : Snapshot} (h : s.WellKeyed) {entry : String × Json}
    (he : entry ∈ s.entries) : s.values.find? entry.1 = some entry.2 :=
  Keyed.find?_ofList_of_mem h.nodup_entries_keys he

theorem mem_entityKeys_of_mem_values {s : Snapshot} {key : String} (hk : key ∈ s.values.keys)
    (hl : key ∉ listKeys) : ∃ category, key ∈ s.entityKeys category := by
  have he := Keyed.mem_keys_ofList.mp hk
  rw [entries_keys] at he
  obtain ⟨category, -, hc⟩ := List.mem_flatMap.mp ((List.mem_append.mp he).resolve_right hl)
  exact ⟨category, hc⟩

theorem length_entityKeys (s : Snapshot) {category : Category} {count : Nat}
    (h : ∀ id, (category.entityKeys id).length = count) :
    (s.entityKeys category).length = count * (s.ids category).length := by
  simp [entityKeys, List.length_flatMap, h, Nat.mul_comm]

theorem WellKeyed.length_values {s : Snapshot} (h : s.WellKeyed) :
    s.values.keys.length =
      32 + 2 * s.containerStats.length + 2 * s.diskStats.length + s.sensors.length := by
  have hmetrics : (s.entityKeys .metric).length = 1 * metricKeys.length :=
    s.length_entityKeys fun _ => rfl
  have hcontainers : (s.entityKeys .container).length = 2 * s.containerKeys.length :=
    s.length_entityKeys fun _ => rfl
  have hdisks : (s.entityKeys .disk).length = 2 * s.diskKeys.length :=
    s.length_entityKeys fun _ => rfl
  have hsensors : (s.entityKeys .sensor).length = 1 * s.sensorKeys.length :=
    s.length_entityKeys fun _ => rfl
  have hfixed : metricKeys.length + listKeys.length = 32 := rfl
  rw [h.keys_values_perm.length_eq]
  simp only [Category.all, List.flatMap_cons, List.flatMap_nil, List.append_nil,
    List.length_append, hmetrics, hcontainers, hdisks, hsensors]
  simp only [containerKeys, diskKeys, sensorKeys, Keyed.keys, List.length_map]
  omega

theorem mem_entries {s : Snapshot} {entry : String × Json} :
    entry ∈ s.entries ↔ entry ∈ s.metrics ∨ (∃ c ∈ s.containerStats, entry ∈ c.entries) ∨
      (∃ d ∈ s.diskStats, entry ∈ d.entries) ∨
      (∃ sensor ∈ s.sensors, (sensor.1, Json.ofFloat sensor.2) = entry) ∨
      entry ∈ [("container_stats", .list (s.containerStats.map Container.toJson)),
        ("disk_stats", .list (s.diskStats.map Disk.toJson))] := by
  simp only [entries, List.mem_append, List.mem_flatMap, List.mem_map, or_assoc]

-- A key holds this reading; `null` stands for one that is absent.
def HoldsInt (values : Keyed Json) (key : String) (reading : Option Int) : Prop :=
  values.find? key = some (reading.elim .null .int)

-- `null` stands also for what is not finite: JSON has no number for it.
def HoldsFloat (values : Keyed Json) (key : String) (reading : Option Float) : Prop :=
  values.find? key =
    some (reading.elim .null fun x => if Decimal.isFinite x then .float x else .null)

def HoldsText (values : Keyed Json) (key : String) (text : String) : Prop :=
  values.find? key = some (.text text)

theorem ofInt?_eq_elim (reading : Option Int) : ofInt? reading = reading.elim .null .int := by
  cases reading <;> rfl

theorem holdsFloat_iff {values : Keyed Json} {key : String} {reading : Option Float} :
    HoldsFloat values key reading ↔ values.find? key = some (ofFloat? reading) := by
  cases reading <;> rfl

-- Each metric key holds the reading that it is called after.
structure HoldsMetrics (s : Snapshot) (values : Keyed Json) : Prop where
  cpu : HoldsInt values "cpu" s.cpu
  mem : HoldsInt values "mem" s.mem
  swap : HoldsInt values "swap" s.swap
  disk : HoldsInt values "disk" s.disk
  diskCapacityTotal : HoldsFloat values "disk_capacity_total" s.diskCapacityTotal
  swapTotal : HoldsFloat values "swap_total" s.swapTotal
  uptime : HoldsInt values "uptime" s.uptime
  temp : HoldsFloat values "temp" s.temp
  netIn : HoldsFloat values "net_in" s.netIn
  netOut : HoldsFloat values "net_out" s.netOut
  diskRead : HoldsFloat values "disk_read" s.diskRead
  diskWrite : HoldsFloat values "disk_write" s.diskWrite
  ram : HoldsInt values "ram" s.ram
  cores : HoldsInt values "cores" s.cores
  load1 : HoldsFloat values "load_1" s.load1
  load5 : HoldsFloat values "load_5" s.load5
  load15 : HoldsFloat values "load_15" s.load15
  cpuFreq : HoldsInt values "cpu_freq" s.cpuFreq
  processes : HoldsInt values "processes" s.processes
  os : HoldsText values "os" s.os
  pkgCount : HoldsInt values "pkg_count" s.pkgCount
  pkgList : HoldsText values "pkg_list" s.pkgList
  docker : HoldsInt values "docker" s.docker
  containers : HoldsText values "containers" s.containers
  vnc : HoldsText values "vnc" s.vnc
  web : HoldsText values "web" s.web
  ssh : HoldsText values "ssh" s.ssh
  localIp : HoldsText values "local_ip" s.localIp
  powerW : HoldsFloat values "power_w" s.powerW
  energyKwhTotal : HoldsFloat values "energy_kwh_total" s.energyKwhTotal

theorem WellKeyed.holdsMetrics {s : Snapshot} (h : s.WellKeyed) : HoldsMetrics s s.values := by
  have hheld : ∀ metric ∈ s.metrics, s.values.find? metric.1 = some metric.2 :=
    fun metric hm => h.find?_values (mem_entries.mpr (.inl hm))
  simp only [metrics, List.forall_mem_cons, ofInt?_eq_elim, ← holdsFloat_iff] at hheld
  obtain ⟨cpu, mem, swap, disk, diskCapacityTotal, swapTotal, uptime, temp, netIn, netOut,
    diskRead, diskWrite, ram, cores, load1, load5, load15, cpuFreq, processes, os, pkgCount,
    pkgList, docker, containers, vnc, web, ssh, localIp, powerW, energyKwhTotal, -⟩ := hheld
  exact ⟨cpu, mem, swap, disk, diskCapacityTotal, swapTotal, uptime, temp, netIn, netOut,
    diskRead, diskWrite, ram, cores, load1, load5, load15, cpuFreq, processes, os, pkgCount,
    pkgList, docker, containers, vnc, web, ssh, localIp, powerW, energyKwhTotal⟩

theorem WellKeyed.holds_container {s : Snapshot} (h : s.WellKeyed) {c : Container}
    (hc : c ∈ s.containerStats) :
    HoldsFloat s.values ("container_" ++ c.key ++ "_cpu") c.cpu ∧
      HoldsFloat s.values ("container_" ++ c.key ++ "_mem") c.mem := by
  have hentries : ∀ entry ∈ c.entries, s.values.find? entry.1 = some entry.2 :=
    fun entry he => h.find?_values (mem_entries.mpr (.inr (.inl ⟨c, hc, he⟩)))
  exact ⟨holdsFloat_iff.mpr (hentries _ (.head _)),
    holdsFloat_iff.mpr (hentries _ (.tail _ (.head _)))⟩

theorem WellKeyed.holds_disk {s : Snapshot} (h : s.WellKeyed) {d : Disk}
    (hd : d ∈ s.diskStats) :
    HoldsFloat s.values ("disk_" ++ d.key ++ "_total") (some d.total) ∧
      HoldsFloat s.values ("disk_" ++ d.key ++ "_free") (some d.free) := by
  have hentries : ∀ entry ∈ d.entries, s.values.find? entry.1 = some entry.2 :=
    fun entry he => h.find?_values (mem_entries.mpr (.inr (.inr (.inl ⟨d, hd, he⟩))))
  exact ⟨holdsFloat_iff.mpr (hentries _ (.head _)),
    holdsFloat_iff.mpr (hentries _ (.tail _ (.head _)))⟩

theorem WellKeyed.holds_sensor {s : Snapshot} (h : s.WellKeyed) {sensor : String × Float}
    (hs : sensor ∈ s.sensors) : HoldsFloat s.values sensor.1 (some sensor.2) := by
  have hentry : (sensor.1, Json.ofFloat sensor.2) ∈ s.entries :=
    mem_entries.mpr (.inr (.inr (.inr (.inl ⟨sensor, hs, rfl⟩))))
  exact holdsFloat_iff.mpr (h.find?_values hentry)

theorem WellKeyed.find?_lists {s : Snapshot} (h : s.WellKeyed) :
    s.values.find? "container_stats" = some (.list (s.containerStats.map Container.toJson)) ∧
      s.values.find? "disk_stats" = some (.list (s.diskStats.map Disk.toJson)) := by
  have hentries : ∀ entry ∈ [("container_stats", Json.list (s.containerStats.map Container.toJson)),
      ("disk_stats", .list (s.diskStats.map Disk.toJson))],
      s.values.find? entry.1 = some entry.2 :=
    fun entry he => h.find?_values (mem_entries.mpr (.inr (.inr (.inr (.inr he)))))
  exact ⟨hentries _ (.head _), hentries _ (.tail _ (.head _))⟩

-- A record can write its own fields beside the values.
theorem WellKeyed.ownName_not_mem {s : Snapshot} (h : s.WellKeyed) {name : String}
    (hn : name ∈ Record.ownNames) : name ∉ s.values.keys := by
  intro hk
  have hdisjoint : ∀ name ∈ Record.ownNames, name ∉ listKeys := by decide
  obtain ⟨category, hc⟩ := mem_entityKeys_of_mem_values hk (hdisjoint name hn)
  exact not_hasForm_ownName hn category (h.hasForm hc)

-- Flattening keeps every reading of a sample under a key of its own.
theorem values_of_normalize {s : Sampler} {host output : String} {now : Float}
    {snapshot : Snapshot} (h : (s.normalize host output now).1 = .ok snapshot) :
    snapshot.values.keys.Nodup ∧
    snapshot.values.keys.Perm (metricKeys ++
      snapshot.containerKeys.flatMap Category.container.entityKeys ++
      snapshot.diskKeys.flatMap Category.disk.entityKeys ++
      snapshot.sensorKeys.flatMap Category.sensor.entityKeys ++
      ["container_stats", "disk_stats"]) ∧
    snapshot.values.keys.length = 32 + 2 * snapshot.containerStats.length +
      2 * snapshot.diskStats.length + snapshot.sensors.length ∧
    HoldsMetrics snapshot snapshot.values ∧
    (∀ c ∈ snapshot.containerStats,
      HoldsFloat snapshot.values ("container_" ++ c.key ++ "_cpu") c.cpu ∧
      HoldsFloat snapshot.values ("container_" ++ c.key ++ "_mem") c.mem) ∧
    (∀ d ∈ snapshot.diskStats,
      HoldsFloat snapshot.values ("disk_" ++ d.key ++ "_total") (some d.total) ∧
      HoldsFloat snapshot.values ("disk_" ++ d.key ++ "_free") (some d.free)) ∧
    (∀ sensor ∈ snapshot.sensors, HoldsFloat snapshot.values sensor.1 (some sensor.2)) ∧
    snapshot.values.find? "container_stats" =
      some (.list (snapshot.containerStats.map Container.toJson)) ∧
    snapshot.values.find? "disk_stats" =
      some (.list (snapshot.diskStats.map Disk.toJson)) ∧
    ∀ name ∈ Record.ownNames, name ∉ snapshot.values.keys := by
  have hwell := normalize_wellKeyed h
  have hkeys : Category.all.flatMap snapshot.entityKeys = metricKeys ++
      snapshot.containerKeys.flatMap Category.container.entityKeys ++
      snapshot.diskKeys.flatMap Category.disk.entityKeys ++
      snapshot.sensorKeys.flatMap Category.sensor.entityKeys := by
    simp [Category.all, entityKeys, ids, Category.entityKeys]
  exact ⟨(Keyed.ascending_ofList _).nodup_keys, hkeys ▸ hwell.keys_values_perm,
    hwell.length_values, hwell.holdsMetrics, fun c hc => hwell.holds_container hc,
    fun d hd => hwell.holds_disk hd, fun sensor hs => hwell.holds_sensor hs,
    hwell.find?_lists.1, hwell.find?_lists.2, fun name hn => hwell.ownName_not_mem hn⟩

-- Names that take each other's keys, and a disk called like a metric.
def clashingNames : String :=
  "\x7b\"cpu\":7,\"container_stats\":[\x7b\"name\":\"web_2\"\x7d,\x7b\"name\":\"web\"\x7d," ++
    "\x7b\"name\":\"Web\"\x7d],\"disk_stats\":[\x7b\"name\":\"capacity\"\x7d]\x7d"

theorem values_of_normalize_clashingNames :
    ∃ snapshot, (Sampler.empty.normalize "web" clashingNames 0).1 = .ok snapshot ∧
      snapshot.containerKeys = ["web_2", "web", "web_3"] ∧ snapshot.diskKeys = ["capacity_2"] ∧
      snapshot.values.keys.Nodup ∧ snapshot.values.keys.length = 40 ∧
      snapshot.values.find? "cpu" = some (.int 7) := by
  have hkeys : ((Sampler.empty.normalize "web" clashingNames 0).1.map fun snapshot =>
      (snapshot.containerKeys, snapshot.diskKeys, snapshot.sensorKeys, snapshot.cpu)).toOption =
        some (["web_2", "web", "web_3"], ["capacity_2"], [], some 7) := by decide +kernel
  cases h : (Sampler.empty.normalize "web" clashingNames 0).1 with
  | error e => rw [h] at hkeys; cases hkeys
  | ok snapshot =>
      simp only [h, Except.map, Except.toOption, Option.some.injEq, Prod.mk.injEq] at hkeys
      obtain ⟨hcontainers, hdisks, hsensors, hcpu⟩ := hkeys
      obtain ⟨hnodup, -, hlength, hmetrics, -⟩ := values_of_normalize h
      have hcounts : snapshot.containerStats.length = 3 ∧ snapshot.diskStats.length = 1 ∧
          snapshot.sensors.length = 0 := by
        refine ⟨?_, ?_, ?_⟩
        · simpa [containerKeys] using congrArg List.length hcontainers
        · simpa [diskKeys] using congrArg List.length hdisks
        · simpa [sensorKeys, Keyed.keys] using congrArg List.length hsensors
      refine ⟨snapshot, rfl, hcontainers, hdisks, hnodup, ?_, ?_⟩
      · rw [hlength, hcounts.1, hcounts.2.1, hcounts.2.2]
      · have hheld := hmetrics.cpu
        rwa [hcpu] at hheld

end HostTelemetry.Snapshot
