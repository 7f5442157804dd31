import HostTelemetry.Settings.Basic
import HostTelemetry.Toml.Document

namespace HostTelemetry.Settings

open Toml (Fields)

variable {α : Type}

def required (decode : Toml → Option α) (name : String) (fields : Fields) : Option α :=
  (Keyed.find? name fields).bind decode

def optional (decode : Toml → Option α) (name : String) (fields : Fields) : Option (Option α) :=
  match Keyed.find? name fields with
  | none => some none
  | some v => (decode v).map some

def orElse (default : α) (decode : Toml → Option α) (name : String) (fields : Fields) :
    Option α :=
  (optional decode name fields).map (·.getD default)

def list? (decode : Toml → Option α) (v : Toml) : Option (List α) :=
  v.items?.bind fun items => items.mapM decode

def port? : Toml → Option Nat := Toml.natBelow? (Nat.pow 2 16)

def count? : Toml → Option Nat := Toml.natBelow? (Nat.pow 2 64)

def server? (v : Toml) : Option Server := do
  let fields ← v.section? ["port", "host"]
  return { port := ← required port? "port" fields, host := ← required Toml.text? "host" fields }

def defaultPolling : Polling := ⟨30, 60, 10, none⟩

def polling? (v : Toml) : Option Polling := do
  let fields ← v.section? ["interval_secs", "command_timeout_secs", "connect_timeout_secs", "command"]
  return {
    interval := ← orElse defaultPolling.interval count? "interval_secs" fields
    commandTimeout := ← orElse defaultPolling.commandTimeout count? "command_timeout_secs" fields
    connectTimeout := ← orElse defaultPolling.connectTimeout count? "connect_timeout_secs" fields
    command := ← optional Toml.text? "command" fields }

def defaultPublishing : Publishing := ⟨[], none, 16⟩

def publishing? (v : Toml) : Option Publishing := do
  let fields ← v.section? ["disabled", "stats_file", "broadcast_capacity"]
  return {
    disabled := ← orElse [] (list? Toml.text?) "disabled" fields
    statsFile := ← optional Toml.text? "stats_file" fields
    broadcastCapacity :=
      ← orElse defaultPublishing.broadcastCapacity count? "broadcast_capacity" fields }

def defaultActions : Actions := ⟨false, false, 600⟩

def actions? (v : Toml) : Option Actions := do
  let fields ← v.section? ["enabled", "allow_run_command", "timeout_secs"]
  return {
    enabled := ← orElse false Toml.bool? "enabled" fields
    allowRunCommand := ← orElse false Toml.bool? "allow_run_command" fields
    timeout := ← orElse defaultActions.timeout count? "timeout_secs" fields }

def defaultBrokerPort : Nat := 1883

def broker? (v : Toml) : Option Broker := do
  let fields ← v.section? ["host", "port", "username", "password", "client_id", "topic_prefix",
    "discovery_prefix"]
  return {
    host := ← required Toml.text? "host" fields
    port := ← orElse defaultBrokerPort port? "port" fields
    username := ← optional Toml.text? "username" fields
    password := ← optional Toml.text? "password" fields
    clientId := ← orElse "vserver-stats" Toml.text? "client_id" fields
    topicPrefix := ← orElse "vserver_ssh" Toml.text? "topic_prefix" fields
    discoveryPrefix := ← orElse "homeassistant" Toml.text? "discovery_prefix" fields }

def host? (v : Toml) : Option Host := do
  let fields ← v.section? ["name", "host", "port", "username", "password", "key"]
  return {
    name := ← required Toml.text? "name" fields
    address := ← required Toml.text? "host" fields
    port := ← orElse Host.defaultPort port? "port" fields
    username := ← required Toml.text? "username" fields
    password := ← optional Toml.text? "password" fields
    key := ← optional Toml.text? "key" fields }

-- Unknown keys are passed over.
def ofFields? (fields : Fields) : Option Settings := do
  return {
    server := ← required server? "server" fields
    polling := ← orElse defaultPolling polling? "polling" fields
    publishing := ← orElse defaultPublishing publishing? "publishing" fields
    broker := ← optional broker? "mqtt" fields
    actions := ← orElse defaultActions actions? "actions" fields
    hosts := ← orElse [] (list? host?) "hosts" fields }

def parse? (s : String) : Option Settings :=
  (Toml.parse? s).bind ofFields?

end HostTelemetry.Settings
