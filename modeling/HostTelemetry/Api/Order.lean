import HostTelemetry.Action
import HostTelemetry.Api.Message
import HostTelemetry.Settings.Basic

namespace HostTelemetry.Api

-- A command that a request makes a host run.
structure Order where
  host : Host
  action : Action
  command : String
  timeout : Nat

-- Why an action with a readable body is refused.
inductive Refusal where
  | disabled
  | unknownAction (name : String)
  | runDisabled
  | unknownHost (name : String)
  | noCommand
  deriving DecidableEq

namespace Refusal

def status : Refusal → Status
  | disabled | runDisabled => .forbidden
  | unknownAction _ | unknownHost _ => .notFound
  | noCommand => .badRequest

def message : Refusal → String
  | disabled => "host actions are disabled"
  | unknownAction name => Action.unknownMessage name
  | runDisabled => "run is disabled"
  | unknownHost name => "unknown host " ++ name
  | noCommand => Action.missingCommandMessage

def response (r : Refusal) : Response := .ofMessage r.status r.message

end Refusal

def msPerSecond : Nat := 1000

def order (settings : Settings) (host action : String) (asked : Option String) :
    Except Refusal Order :=
  if !settings.actions.enabled then .error .disabled
  else
    match Action.ofName? action with
    | none => .error (.unknownAction action)
    | some a =>
        if a = .run ∧ !settings.actions.allowRunCommand then .error .runDisabled
        else
          match settings.hosts.find? (·.name = host) with
          | none => .error (.unknownHost host)
          | some h =>
              match a.command? asked with
              | none => .error .noCommand
              | some command => .ok ⟨h, a, command, settings.actions.timeout * msPerSecond⟩

def Order.response (o : Order) (reply : Command.Reply) : Response :=
  match o.action.perform o.host.name o.timeout reply with
  | .ok outcome => .ofJson outcome.toJson
  | .error e =>
      ⟨.badGateway, .json (.ofKeyed [("error", .text e.message), ("kind", .text e.kind)])⟩

end HostTelemetry.Api
