import HostTelemetry.Command
import HostTelemetry.Json.Basic

namespace HostTelemetry

-- What a host can be told to do.
inductive Action where
  | updatePackages
  | reboot
  | run
  deriving DecidableEq

namespace Action

def all : List Action := [updatePackages, reboot, run]

def name : Action → String
  | updatePackages => "update_packages"
  | reboot => "reboot"
  | run => "run"

def ofName? (s : String) : Option Action :=
  all.find? fun action => action.name = s

def unknownMessage (s : String) : String :=
  "unknown action " ++ Text.quoted s

-- Takes whichever package manager the host has.
def updateCommand : String :=
  "if command -v apt-get >/dev/null 2>&1; then " ++
  "sudo apt-get update && sudo apt-get -y upgrade; " ++
  "elif command -v dnf >/dev/null 2>&1; then sudo dnf -y upgrade; " ++
  "elif command -v yum >/dev/null 2>&1; then sudo yum -y update; " ++
  "else echo 'No supported package manager found'; fi"

-- Runs on its own, so that the session is over before the host goes down.
def rebootCommand : String :=
  "(sleep 1; sudo reboot) >/dev/null 2>&1 &"

def missingCommandMessage : String :=
  "run requires a non-empty \"command\""

-- The command for an action; only a run takes the one that was asked for.
def command? (asked : Option String) : Action → Option String
  | updatePackages => some updateCommand
  | reboot => some rebootCommand
  | run => (asked.map Text.trim).filter (· ≠ "")

structure Outcome where
  host : String
  action : Action
  output : String
  exitCode : Option Int

def Outcome.toJson (o : Outcome) : Json :=
  .ofKeyed ([("host", .text o.host), ("action", .text o.action.name), ("output", .text o.output)] ++
    match o.exitCode with
    | none => []
    | some code => [("exit_code", .int code)])

def report (action : Action) (out : Command.Output) : String :=
  match action with
  | reboot => "reboot triggered"
  | _ => out.stdout ++ out.stderr

def perform (action : Action) (host : String) (timeout : Nat) (reply : Command.Reply) :
    Except SampleFault Outcome :=
  (reply.within timeout).map fun out => ⟨host, action, action.report out, out.exitCode⟩

end Action

end HostTelemetry
