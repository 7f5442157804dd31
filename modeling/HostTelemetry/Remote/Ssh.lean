import HostTelemetry.Command
import HostTelemetry.Host
import HostTelemetry.Text.Utf8

namespace HostTelemetry.Ssh

-- How the client is called. The time is in milliseconds.
structure Client where
  connectTimeout : Nat
  path : String

structure CommandLine where
  program : String
  arguments : List String
  deriving DecidableEq

def loginOptions (h : Host) : List String :=
  if h.password.isSome then [] else ["-o", "BatchMode=yes"]

def keyOptions : Option String → List String
  | none => []
  | some key => ["-i", key]

-- The client waits for whole seconds, and for at least one.
def Client.waitSeconds (c : Client) : Nat :=
  max (c.connectTimeout / 1000) 1

def Client.options (c : Client) (h : Host) : List String :=
  loginOptions h ++
    ["-o", "ConnectTimeout=" ++ Nat.repr c.waitSeconds, "-o", "StrictHostKeyChecking=accept-new",
     "-p", Nat.repr h.port] ++
    keyOptions h.key ++ [h.target, "sh -s"]

-- A password is handed over by a helper, which takes it from its environment. The
-- command itself goes to the standard input.
def Client.commandLine (c : Client) (h : Host) : CommandLine :=
  match h.password with
  | none => ⟨c.path, c.options h⟩
  | some _ => ⟨"sshpass", "-e" :: c.path :: c.options h⟩

-- Why a program could not be started.
inductive StartFault where
  | notFound
  | notPermitted
  | zeroCharacter

def StartFault.message : StartFault → String
  | notFound => "No such file or directory (os error 2)"
  | notPermitted => "Permission denied (os error 13)"
  | zeroCharacter => "nul byte found in provided data"

def hasZero (s : String) : Bool :=
  s.toList.any fun c => c.toNat = 0

-- A zero character cannot be passed to a program, whatever else is wrong.
def Client.startFault? (c : Client) (programs : String → Option StartFault) (h : Host) :
    Option StartFault :=
  let line := c.commandLine h
  if (line.program :: line.arguments ++ h.password.toList).any hasZero then some .zeroCharacter
  else programs line.program

-- What became of the client once it was called.
inductive Run where
  | notStarted (fault : StartFault)
  | unfinished
  | finished (stdout stderr : List UInt8) (status : Option Int)

def connectFailure : Int := 255

-- A refused password and an unknown host key.
def helperFailures : List Int := [5, 6]

def isConnectFailure (viaHelper : Bool) : Option Int → Bool
  | none => false
  | some code => code == connectFailure || (viaHelper && helperFailures.contains code)

def settle (h : Host) (out : Command.Output) : Except SampleFault Command.Output :=
  if isConnectFailure h.password.isSome out.exitCode && decide (Text.AllBlank out.stdout) then
    .error (.connection (SampleFault.excerpt (Text.trim out.stderr)))
  else .ok out

-- The timeout is in milliseconds; whole seconds are told.
def Client.conclude (c : Client) (h : Host) (timeout : Nat) : Run → Except SampleFault Command.Output
  | .notStarted fault =>
      .error (.connection
        ("failed to spawn " ++ (c.commandLine h).program ++ ": " ++ fault.message))
  | .unfinished =>
      .error (.connection ("timed out after " ++ Nat.repr (timeout / 1000) ++ "s"))
  | .finished stdout stderr status =>
      settle h ⟨Text.Utf8.decodeLossy stdout, Text.Utf8.decodeLossy stderr, status⟩

end HostTelemetry.Ssh
