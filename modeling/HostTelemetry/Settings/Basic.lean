import HostTelemetry.Publish.Broker

namespace HostTelemetry

namespace Settings

structure Server where
  port : Nat
  host : String

-- Times are in seconds, as they are configured.
structure Polling where
  interval : Nat
  commandTimeout : Nat
  connectTimeout : Nat
  command : Option String

structure Publishing where
  disabled : List String
  statsFile : Option String
  broadcastCapacity : Nat

structure Actions where
  enabled : Bool
  allowRunCommand : Bool
  timeout : Nat

end Settings

structure Settings where
  server : Settings.Server
  polling : Settings.Polling
  publishing : Settings.Publishing
  broker : Option Broker
  actions : Settings.Actions
  hosts : List Host

namespace Settings

-- Hosts are not asked more often than this, in seconds.
def leastInterval : Nat := 5

def Polling.effectiveInterval (p : Polling) : Nat :=
  max p.interval leastInterval

def Publishing.disabledKeys (p : Publishing) : List String :=
  (Keyed.ofList (p.disabled.map fun key => (key, ()))).keys

def Server.toJson (s : Server) : Json :=
  .ofKeyed [("port", .int s.port), ("host", .text s.host)]

def Polling.toJson (p : Polling) : Json :=
  .ofKeyed ([("interval_secs", .int p.interval), ("command_timeout_secs", .int p.commandTimeout),
    ("connect_timeout_secs", .int p.connectTimeout)] ++ Json.optionField "command" p.command)

def Publishing.toJson (p : Publishing) : Json :=
  .ofKeyed ([("disabled", Json.texts p.disabled),
    ("broadcast_capacity", .int p.broadcastCapacity)] ++
    Json.optionField "stats_file" p.statsFile)

def Actions.toJson (a : Actions) : Json :=
  .ofKeyed [("enabled", .bool a.enabled), ("allow_run_command", .bool a.allowRunCommand),
    ("timeout_secs", .int a.timeout)]

-- What may be shown of the settings: no address, no login.
def view (s : Settings) : Json :=
  .ofKeyed [("server", s.server.toJson), ("polling", s.polling.toJson),
    ("publishing", s.publishing.toJson), ("mqtt", Json.ofOption Broker.view s.broker),
    ("actions", s.actions.toJson), ("hosts", .list (s.hosts.map fun h => h.redacted.toJson))]

end Settings

end HostTelemetry
