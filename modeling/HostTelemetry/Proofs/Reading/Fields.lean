import HostTelemetry.Proofs.Keyed
import HostTelemetry.Reading.Basic
import Mathlib.Data.List.Forall2

namespace HostTelemetry

def Json.isList : Json → Bool
  | .list _ => true
  | _ => false

def Json.isObject : Json → Bool
  | .object _ => true
  | _ => false

-- The key that a diagnostic is about.
def Diagnostic.key : Diagnostic → String
  | .notInteger key _ | .notNumber key _ | .notList key _ | .notMap key _ | .notObject key _ => key

namespace Reading

-- What a field of a report holds.
inductive Kind where
  | integer
  | number
  | text
  | containers
  | disks
  | tree
  deriving DecidableEq

inductive Content where
  | integer (n : Option Int)
  | number (f : Option Float)
  | text (s : String)
  | containers (cs : List Container)
  | disks (ds : List Disk)
  | tree (fields : Fields)

-- A field of a reading and the key that it is reported under.
structure Slot where
  kind : Kind
  key : String
  content : Reading → Content

-- Every field but `swap`, which is reported under either of two keys, and the
-- diagnostics.
def slots : List Slot :=
  [⟨.integer, "cpu", fun r => .integer r.cpu⟩,
   ⟨.integer, "mem", fun r => .integer r.mem⟩,
   ⟨.integer, "disk", fun r => .integer r.disk⟩,
   ⟨.integer, "disk_capacity_total", fun r => .integer r.diskCapacityTotal⟩,
   ⟨.integer, "swap_total", fun r => .integer r.swapTotal⟩,
   ⟨.integer, "uptime", fun r => .integer r.uptime⟩,
   ⟨.number, "temp", fun r => .number r.temp⟩,
   ⟨.integer, "rx", fun r => .integer r.rx⟩,
   ⟨.integer, "tx", fun r => .integer r.tx⟩,
   ⟨.integer, "disk_read", fun r => .integer r.diskRead⟩,
   ⟨.integer, "disk_write", fun r => .integer r.diskWrite⟩,
   ⟨.integer, "ram", fun r => .integer r.ram⟩,
   ⟨.integer, "cores", fun r => .integer r.cores⟩,
   ⟨.number, "load_1", fun r => .number r.load1⟩,
   ⟨.number, "load_5", fun r => .number r.load5⟩,
   ⟨.number, "load_15", fun r => .number r.load15⟩,
   ⟨.integer, "cpu_freq", fun r => .integer r.cpuFreq⟩,
   ⟨.integer, "processes", fun r => .integer r.processes⟩,
   ⟨.text, "os", fun r => .text r.os⟩,
   ⟨.integer, "pkg_count", fun r => .integer r.pkgCount⟩,
   ⟨.text, "pkg_list", fun r => .text r.pkgList⟩,
   ⟨.integer, "docker", fun r => .integer r.docker⟩,
   ⟨.text, "containers", fun r => .text r.containers⟩,
   ⟨.text, "vnc", fun r => .text r.vnc⟩,
   ⟨.text, "web", fun r => .text r.web⟩,
   ⟨.text, "ssh", fun r => .text r.ssh⟩,
   ⟨.text, "local_ip", fun r => .text r.localIp⟩,
   ⟨.number, "power_w", fun r => .number r.powerW⟩,
   ⟨.integer, "energy_uj", fun r => .integer r.energyUj⟩,
   ⟨.integer, "energy_range_uj", fun r => .integer r.energyRangeUj⟩,
   ⟨.containers, "container_stats", fun r => .containers r.containerStats⟩,
   ⟨.disks, "disk_stats", fun r => .disks r.diskStats⟩,
   ⟨.tree, "sensors", fun r => .tree r.sensors⟩]

-- Whether a value is of use for a field. Any value can be shown as a text.
def Kind.accepts (v : Json) : Kind → Bool
  | .integer => v.coerceInt.isSome
  | .number => v.coerceFloat.isSome
  | .text => true
  | .containers | .disks => v.isList
  | .tree => v.isObject

def Kind.read (fields : Fields) (key : String) : Kind → Content
  | .integer => .integer (int? fields key)
  | .number => .number (float? fields key)
  | .text => .text (Reading.text fields key)
  | .containers => .containers ((entries fields key).filterMap Container.ofJson?)
  | .disks => .disks ((entries fields key).filterMap Disk.ofJson?)
  | .tree => .tree (map fields key)

def Kind.diagnostics (fields : Fields) (key : String) : Kind → List Diagnostic
  | .integer => intDiagnostics fields key
  | .number => floatDiagnostics fields key
  | .text => []
  | .containers | .disks => listDiagnostics fields key
  | .tree => mapDiagnostics fields key

-- The keys that are looked at, each with the kind of its field. The older key of
-- `swap` is looked at only when the newer one gives nothing.
def consulted (fields : Fields) : List (Kind × String) :=
  (.integer, "swap_usage") ::
    (if (int? fields "swap_usage").isNone then [(.integer, "swap")] else []) ++
    slots.map fun slot => (slot.kind, slot.key)

-- Whether there is something under a key that is of no use there.
def isRefused (fields : Fields) (entry : Kind × String) : Bool :=
  (Keyed.find? entry.2 fields).any fun v => !v.isNull && !entry.1.accepts v

-- The entries of a list that are no objects.
def strays (fields : Fields) (key : String) : List Json :=
  (entries fields key).filter fun entry => !entry.isObject

def Kind.strays (fields : Fields) (key : String) : Kind → List Json
  | .containers | .disks => Reading.strays fields key
  | _ => []

section Contents

variable {fields fields' : Fields}

theorem content_ofFields :
    ∀ slot ∈ slots, slot.content (ofFields fields) = slot.kind.read fields slot.key :=
  List.map_inj_left.mp rfl

-- The slots are all that a reading holds.
theorem eq_of_contents {r r' : Reading} (h : ∀ slot ∈ slots, slot.content r = slot.content r')
    (hswap : r.swap = r'.swap) : { r with diagnostics := [] } = { r' with diagnostics := [] } := by
  have hall := List.map_inj_left.mpr h
  simp only [slots, List.map_cons, List.cons.injEq, Content.integer.injEq, Content.number.injEq,
    Content.text.injEq, Content.containers.injEq, Content.disks.injEq, Content.tree.injEq] at hall
  cases r
  cases r'
  simp_all

theorem present?_congr {key : String} (h : Keyed.find? key fields = Keyed.find? key fields') :
    present? fields key = present? fields' key := by
  rw [present?, present?, h]

theorem int?_congr {key : String} (h : Keyed.find? key fields = Keyed.find? key fields') :
    int? fields key = int? fields' key := by
  rw [int?, int?, present?_congr h]

theorem Kind.read_congr {key : String} (h : Keyed.find? key fields = Keyed.find? key fields')
    (kind : Kind) : kind.read fields key = kind.read fields' key := by
  have hpresent := present?_congr h
  cases kind with
  | integer => rw [read, read, int?_congr h]
  | number => rw [read, read, float?, float?, hpresent]
  | text => rw [read, read, Reading.text, Reading.text, hpresent]
  | containers => rw [read, read, entries, entries, hpresent]
  | disks => rw [read, read, entries, entries, hpresent]
  | tree => rw [read, read, map, map, hpresent]

end Contents

section Diagnostics

variable {fields : Fields} {key : String}

theorem isRefused_eq (kind : Kind) :
    isRefused fields (kind, key) = (present? fields key).any fun v => !kind.accepts v := by
  rw [isRefused, present?, Option.any_filter]

theorem length_entryDiagnostics (items : List Json) :
    (items.flatMap (entryDiagnostics key)).length =
      (items.filter fun entry => !entry.isObject).length := by
  induction items with
  | nil => rfl
  | cons entry rest ih =>
      rw [List.flatMap_cons, List.length_append, ih]
      cases entry with
      | object _ => exact Nat.zero_add _
      | _ => exact Nat.add_comm _ _

theorem length_listDiagnostics :
    (listDiagnostics fields key).length =
      ((present? fields key).any fun v => !v.isList).toNat + (strays fields key).length := by
  unfold listDiagnostics strays entries
  split
  · next items hlist =>
      rw [hlist, length_entryDiagnostics]
      exact (Nat.zero_add _).symm
  · next v hother hv => cases v <;> simp_all [Json.isList]
  · next hnone => simp [hnone]

theorem length_diagnostics (kind : Kind) :
    (kind.diagnostics fields key).length =
      (isRefused fields (kind, key)).toNat + (kind.strays fields key).length := by
  rw [isRefused_eq]
  cases kind with
  | integer =>
      rw [Kind.diagnostics, intDiagnostics]
      cases present? fields key with
      | none => rfl
      | some v => cases h : v.coerceInt <;> simp [Kind.accepts, Kind.strays, h]
  | number =>
      rw [Kind.diagnostics, floatDiagnostics]
      cases present? fields key with
      | none => rfl
      | some v => cases h : v.coerceFloat <;> simp [Kind.accepts, Kind.strays, h]
  | text => cases present? fields key <;> rfl
  | containers => exact length_listDiagnostics
  | disks => exact length_listDiagnostics
  | tree =>
      rw [Kind.diagnostics, mapDiagnostics]
      cases present? fields key with
      | none => rfl
      | some v => cases v <;> rfl

def Numeric.entry : Numeric → Kind × String
  | .int key => (.integer, key)
  | .float key => (.number, key)

-- The collections are looked at first and the numbers next, and no text is ever
-- refused.
theorem slots_perm :
    (slots.map fun slot => (slot.kind, slot.key)).Perm
      ([(.containers, "container_stats"), (.disks, "disk_stats"), (.tree, "sensors")] ++
        (numericFields.map Numeric.entry ++
          ["os", "pkg_list", "containers", "vnc", "web", "ssh", "local_ip"].map
            (Kind.text, ·))) := by
  decide +kernel

theorem intDiagnostics_of_some {n : Int} (h : int? fields key = some n) :
    intDiagnostics fields key = [] := by
  obtain ⟨v, hv, hn⟩ := Option.bind_eq_some_iff.mp h
  rw [intDiagnostics, hv]
  simp [hn]

theorem swapDiagnostics_eq :
    swapDiagnostics fields = ((Kind.integer, "swap_usage") ::
      if (int? fields "swap_usage").isNone then [(Kind.integer, "swap")] else []).flatMap
        fun entry => entry.1.diagnostics fields entry.2 := by
  unfold swapDiagnostics
  cases h : int? fields "swap_usage" with
  | some n => simp [Kind.diagnostics, intDiagnostics_of_some h]
  | none => simp [Kind.diagnostics]

-- Each diagnostic belongs to one of the keys that are looked at.
theorem diagnose_perm :
    (diagnose fields).Perm
      ((consulted fields).flatMap fun entry => entry.1.diagnostics fields entry.2) := by
  have hslots := slots_perm.flatMap_right fun entry => entry.1.diagnostics fields entry.2
  have hnumeric : (numericFields.map Numeric.entry).flatMap
      (fun entry => entry.1.diagnostics fields entry.2) =
        numericFields.flatMap (numericDiagnostics fields) := by
    rw [List.flatMap_map]
    refine List.flatMap_congr fun numeric _ => ?_
    cases numeric <;> rfl
  have htexts : (["os", "pkg_list", "containers", "vnc", "web", "ssh", "local_ip"].map
      (Kind.text, ·)).flatMap (fun entry => entry.1.diagnostics fields entry.2) = [] := rfl
  rw [List.flatMap_append, List.flatMap_append, hnumeric, htexts, List.append_nil] at hslots
  rw [consulted, List.flatMap_append, ← swapDiagnostics_eq, diagnose, List.append_assoc,
    List.append_assoc, List.append_assoc]
  refine List.Perm.append_left _ ?_
  simpa [Kind.diagnostics] using hslots.symm

theorem length_flatMap_diagnostics (looked : List (Kind × String)) :
    (looked.flatMap fun entry => entry.1.diagnostics fields entry.2).length =
      looked.countP (isRefused fields) +
        (looked.flatMap fun entry => entry.1.strays fields entry.2).length := by
  induction looked with
  | nil => rfl
  | cons entry rest ih =>
      rw [List.flatMap_cons, List.length_append, ih, length_diagnostics, List.countP_cons,
        List.flatMap_cons, List.length_append]
      cases isRefused fields entry <;> simp <;> omega

theorem strays_consulted :
    ((consulted fields).flatMap fun entry => entry.1.strays fields entry.2) =
      strays fields "container_stats" ++ strays fields "disk_stats" := by
  rw [consulted]
  split <;> simp [slots, Kind.strays]

theorem length_diagnose :
    (diagnose fields).length = (consulted fields).countP (isRefused fields) +
      ((strays fields "container_stats").length + (strays fields "disk_stats").length) := by
  rw [diagnose_perm.length_eq, length_flatMap_diagnostics, strays_consulted, List.length_append]

theorem key_of_mem_entryDiagnostics {entry : Json} {d : Diagnostic}
    (hd : d ∈ entryDiagnostics key entry) : d.key = key := by
  cases entry with
  | object _ => cases hd
  | _ => rw [List.mem_singleton.mp hd]; rfl

theorem key_of_mem_listDiagnostics {d : Diagnostic} (hd : d ∈ listDiagnostics fields key) :
    d.key = key := by
  unfold listDiagnostics at hd
  split at hd
  · obtain ⟨entry, -, hentry⟩ := List.mem_flatMap.mp hd
    exact key_of_mem_entryDiagnostics hentry
  · rw [List.mem_singleton.mp hd]; rfl
  · cases hd

theorem key_of_mem_diagnostics {kind : Kind} {d : Diagnostic}
    (hd : d ∈ kind.diagnostics fields key) : d.key = key := by
  cases kind with
  | integer => grind [Kind.diagnostics, intDiagnostics, Diagnostic.key]
  | number => grind [Kind.diagnostics, floatDiagnostics, Diagnostic.key]
  | text => cases hd
  | containers => exact key_of_mem_listDiagnostics hd
  | disks => exact key_of_mem_listDiagnostics hd
  | tree => grind [Kind.diagnostics, mapDiagnostics, Diagnostic.key]

theorem exists_diagnostic {entry : Kind × String} (hmem : entry ∈ consulted fields)
    (hrefused : isRefused fields entry = true) : ∃ d ∈ diagnose fields, d.key = entry.2 := by
  have hlength : 0 < (entry.1.diagnostics fields entry.2).length := by
    rw [length_diagnostics, hrefused, Bool.toNat_true]
    exact Nat.lt_add_right _ Nat.one_pos
  obtain ⟨d, hd⟩ := List.exists_mem_of_length_pos hlength
  exact ⟨d, diagnose_perm.mem_iff.mpr (List.mem_flatMap.mpr ⟨entry, hmem, hd⟩),
    key_of_mem_diagnostics hd⟩

-- A diagnostic is about a key with something of no use under it, or in its list.
theorem consulted_of_diagnostic {d : Diagnostic} (hd : d ∈ diagnose fields) :
    ∃ entry ∈ consulted fields, d.key = entry.2 ∧
      (isRefused fields entry = true ∨ entry.1.strays fields entry.2 ≠ []) := by
  obtain ⟨entry, hmem, hd⟩ := List.mem_flatMap.mp (diagnose_perm.mem_iff.mp hd)
  refine ⟨entry, hmem, key_of_mem_diagnostics hd, ?_⟩
  have hlength : 0 < (entry.1.diagnostics fields entry.2).length := List.length_pos_of_mem hd
  rw [length_diagnostics] at hlength
  cases hrefused : isRefused fields entry with
  | true => exact .inl rfl
  | false =>
      rw [hrefused, Bool.toNat_false, Nat.zero_add] at hlength
      exact .inr (List.ne_nil_of_length_pos hlength)

end Diagnostics

section Lists

variable {α : Type} {read : Json → Option α}

theorem Container.ofJson?_isSome (v : Json) : (Container.ofJson? v).isSome = v.isObject := by
  cases v <;> rfl

theorem Disk.ofJson?_isSome (v : Json) : (Disk.ofJson? v).isSome = v.isObject := by
  cases v <;> rfl

-- What is read of a list is read of its objects, one by one.
theorem forall₂_objects (hread : ∀ v, (read v).isSome = v.isObject) (items : List Json) :
    List.Forall₂ (fun entry a => read entry = some a) (items.filter Json.isObject)
      (items.filterMap read) := by
  induction items with
  | nil => exact .nil
  | cons entry rest ih =>
      cases h : read entry with
      | some a =>
          have hobject : entry.isObject = true := by rw [← hread, h]; rfl
          rw [List.filter_cons_of_pos hobject, List.filterMap_cons_some h]
          exact .cons h ih
      | none =>
          have hother : ¬entry.isObject = true := by rw [← hread, h]; simp
          rwa [List.filter_cons_of_neg hother, List.filterMap_cons_none h]

end Lists

-- Each key feeds its own field, and whatever is of no use there is told of once, and
-- nothing else is. The lists keep just their objects.
theorem ofFields_fieldwise (fields : Fields) :
    (∀ slot ∈ slots, slot.content (ofFields fields) = slot.kind.read fields slot.key) ∧
    (ofFields fields).swap = (int? fields "swap_usage").or (int? fields "swap") ∧
    (∀ key value,
      (∀ slot ∈ slots, key ≠ slot.key →
        slot.content (ofFields (Keyed.insert key value fields)) = slot.content (ofFields fields)) ∧
      (key ≠ "swap_usage" → key ≠ "swap" →
        (ofFields (Keyed.insert key value fields)).swap = (ofFields fields).swap) ∧
      ((∀ slot ∈ slots, key ≠ slot.key) → key ≠ "swap_usage" → key ≠ "swap" →
        { ofFields (Keyed.insert key value fields) with diagnostics := [] } =
          { ofFields fields with diagnostics := [] })) ∧
    (ofFields fields).diagnostics.length = (consulted fields).countP (isRefused fields) +
      ((strays fields "container_stats").length + (strays fields "disk_stats").length) ∧
    (∀ entry ∈ consulted fields, isRefused fields entry →
      ∃ d ∈ (ofFields fields).diagnostics, d.key = entry.2) ∧
    (∀ d ∈ (ofFields fields).diagnostics, ∃ entry ∈ consulted fields, d.key = entry.2 ∧
      (isRefused fields entry ∨ entry.1.strays fields entry.2 ≠ [])) ∧
    List.Forall₂ (fun entry c => Container.ofJson? entry = some c)
      ((entries fields "container_stats").filter Json.isObject) (ofFields fields).containerStats ∧
    List.Forall₂ (fun entry d => Disk.ofJson? entry = some d)
      ((entries fields "disk_stats").filter Json.isObject) (ofFields fields).diskStats := by
  refine ⟨content_ofFields, rfl, fun key value => ?_, length_diagnose,
    fun entry => exists_diagnostic, fun d => consulted_of_diagnostic,
    forall₂_objects Container.ofJson?_isSome _, forall₂_objects Disk.ofJson?_isSome _⟩
  have hother : ∀ {name}, key ≠ name →
      Keyed.find? name (Keyed.insert key value fields) = Keyed.find? name fields := by
    intro name hne
    rw [Keyed.find?_insert, if_neg hne]
  have hslots : ∀ slot ∈ slots, key ≠ slot.key →
      slot.content (ofFields (Keyed.insert key value fields)) =
        slot.content (ofFields fields) := by
    intro slot hslot hne
    rw [content_ofFields slot hslot, content_ofFields slot hslot, Kind.read_congr (hother hne)]
  have hswap : key ≠ "swap_usage" → key ≠ "swap" →
      (ofFields (Keyed.insert key value fields)).swap = (ofFields fields).swap := by
    intro husage hold
    simp only [ofFields, swap?, int?_congr (hother husage), int?_congr (hother hold)]
  exact ⟨hslots, hswap, fun hnone husage hold =>
    eq_of_contents (fun slot hslot => hslots slot hslot (hnone slot hslot)) (hswap husage hold)⟩

-- One container of two, no processor load, and a swap under its older name.
def spoiled : Fields :=
  [("container_stats", .list [.object [("name", .text "web")], .int 7]),
   ("cpu", .text "n/a"),
   ("swap", .text "7"),
   ("swap_usage", .list [])]

theorem ofFields_fieldwise_spoiled :
    (ofFields spoiled).diagnostics.length = 3 ∧
    (ofFields (Keyed.insert "cpu" (.int 40) spoiled)).mem = (ofFields spoiled).mem ∧
    (ofFields (Keyed.insert "cpu" (.int 40) spoiled)).swap = (ofFields spoiled).swap ∧
    ∃ d ∈ (ofFields spoiled).diagnostics, d.key = "cpu" := by
  obtain ⟨-, -, hframe, hlength, hrefused, -⟩ := ofFields_fieldwise spoiled
  obtain ⟨hslots, hswap, -⟩ := hframe "cpu" (.int 40)
  have hcount : (consulted spoiled).countP (isRefused spoiled) +
      ((strays spoiled "container_stats").length + (strays spoiled "disk_stats").length) = 3 := by
    decide +kernel
  have hmem := hslots _ (List.mem_cons_of_mem _ List.mem_cons_self) (by decide +kernel)
  exact ⟨hlength.trans hcount, Content.integer.inj hmem, hswap (by decide) (by decide),
    hrefused (.integer, "cpu") (by decide +kernel) (by decide +kernel)⟩

end Reading

end HostTelemetry
