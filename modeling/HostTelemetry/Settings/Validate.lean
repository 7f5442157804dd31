import HostTelemetry.Settings.Decode
import HostTelemetry.Text.Blank
import HostTelemetry.Text.Quoted
import HostTelemetry.Text.Slug

namespace HostTelemetry.Settings

-- What can be wrong with one host, given the hosts before it.
inductive HostProblem where
  | blankName
  | sameName
  | sameSlug (other : String)
  | noAddress
  | noUsername
  | noPort
  deriving DecidableEq

inductive Invalid where
  | serverPort (port : Nat)
  | interval (seconds : Nat)
  | commandTimeout (seconds : Nat)
  | connectTimeout (seconds : Nat)
  | blankCommand
  | broadcastCapacity (capacity : Nat)
  | actionTimeout (seconds : Nat)
  | brokerHost
  | brokerPort
  | brokerClient
  | noHosts
  | host (index : Nat) (name : String) (problem : HostProblem)
  deriving DecidableEq

def hostMessage (index : Nat) (name : String) : HostProblem → String
  | .blankName => "hosts[" ++ Nat.repr index ++ "].name must be non-empty"
  | .sameName => "duplicate host name " ++ Text.quoted name
  | .sameSlug other =>
      "host names " ++ Text.quoted other ++ " and " ++ Text.quoted name ++
        " map to the same id " ++ Text.quoted (Text.slug name)
  | .noAddress => "hosts[" ++ Nat.repr index ++ "] (" ++ name ++ "): host must be non-empty"
  | .noUsername => "hosts[" ++ Nat.repr index ++ "] (" ++ name ++ "): username must be non-empty"
  | .noPort => "hosts[" ++ Nat.repr index ++ "] (" ++ name ++ "): port must be > 0"

def Invalid.message : Invalid → String
  | serverPort port => "server.port must be between 1 and 65535, got " ++ Nat.repr port
  | interval n => "polling.interval_secs must be > 0, got " ++ Nat.repr n
  | commandTimeout n => "polling.command_timeout_secs must be >= 2, got " ++ Nat.repr n
  | connectTimeout n => "polling.connect_timeout_secs must be > 0, got " ++ Nat.repr n
  | blankCommand => "polling.command must be non-empty when set"
  | broadcastCapacity n => "publishing.broadcast_capacity must be > 0, got " ++ Nat.repr n
  | actionTimeout n => "actions.timeout_secs must be > 0, got " ++ Nat.repr n
  | brokerHost => "mqtt.host must be non-empty"
  | brokerPort => "mqtt.port must be > 0"
  | brokerClient => "mqtt.client_id must be non-empty"
  | noHosts => "at least one [[hosts]] entry is required"
  | host index name problem => hostMessage index name problem

def ensure (holds : Bool) (otherwise : Invalid) : Except Invalid Unit :=
  if holds then .ok () else .error otherwise

def checkBroker : Option Broker → Except Invalid Unit
  | none => .ok ()
  | some b => do
      ensure (b.host ≠ "") .brokerHost
      ensure (0 < b.port) .brokerPort
      ensure (b.clientId ≠ "") .brokerClient

-- Topics and entity ids are made from the slug of the name, so that has to be
-- unique too.
def hostProblem? (earlier : List String) (h : Host) : Option HostProblem :=
  if Text.AllBlank h.name then some .blankName
  else if h.name ∈ earlier then some .sameName
  else
    match earlier.find? fun other => Text.slug other = Text.slug h.name with
    | some other => some (.sameSlug other)
    | none =>
        if h.address = "" then some .noAddress
        else if h.username = "" then some .noUsername
        else if h.port = 0 then some .noPort
        else none

-- `earlier` holds the names of the hosts before these, all of them sound.
def checkHosts (earlier : List String) : List Host → Except Invalid Unit
  | [] => .ok ()
  | h :: rest =>
      match hostProblem? earlier h with
      | some problem => .error (.host earlier.length h.name problem)
      | none => checkHosts (earlier ++ [h.name]) rest

def validate (s : Settings) : Except Invalid Unit := do
  ensure (0 < s.server.port) (.serverPort s.server.port)
  ensure (0 < s.polling.interval) (.interval s.polling.interval)
  ensure (2 ≤ s.polling.commandTimeout) (.commandTimeout s.polling.commandTimeout)
  ensure (0 < s.polling.connectTimeout) (.connectTimeout s.polling.connectTimeout)
  ensure (s.polling.command.all fun command => !Text.AllBlank command) .blankCommand
  ensure (0 < s.publishing.broadcastCapacity) (.broadcastCapacity s.publishing.broadcastCapacity)
  ensure (0 < s.actions.timeout) (.actionTimeout s.actions.timeout)
  checkBroker s.broker
  ensure (!s.hosts.isEmpty) .noHosts
  checkHosts [] s.hosts

end HostTelemetry.Settings
