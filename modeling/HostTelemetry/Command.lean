import HostTelemetry.Decimal.Fixed
import HostTelemetry.Sample.Fault
import HostTelemetry.Text.Blank
import HostTelemetry.Time

namespace HostTelemetry

namespace Command

-- What a finished command left. Without an exit code it was killed by a signal.
structure Output where
  stdout : String
  stderr : String
  exitCode : Option Int

-- The printed text, unless there is nothing of use in it and a sign of failure
-- beside it.
def Output.text (out : Output) : Except SampleFault String :=
  let complaint := Text.trim out.stderr
  if Text.AllBlank out.stdout then
    if complaint ≠ "" then .error (.command (SampleFault.excerpt complaint))
    else
      match out.exitCode with
      | some code => if code ≠ 0 then .error (.command ("exit status " ++ Int.repr code)) else .ok out.stdout
      | none => .ok out.stdout
  else .ok out.stdout

-- What running a command comes to, and how many milliseconds it takes.
structure Reply where
  delay : Nat
  result : Except SampleFault Output

def Reply.elapsed (reply : Reply) (timeout : Nat) : Nat :=
  min reply.delay timeout

def timedOut (timeout : Nat) : SampleFault :=
  .connection ("timed out after " ++ Decimal.showOnePlace (Time.seconds timeout) ++ "s")

-- A reply that takes exactly the time allowed still counts.
def Reply.within (reply : Reply) (timeout : Nat) : Except SampleFault Output :=
  if reply.delay ≤ timeout then reply.result else .error (timedOut timeout)

def Reply.text (reply : Reply) (timeout : Nat) : Except SampleFault String :=
  (reply.within timeout).bind Output.text

theorem Reply.text_of_inTime {reply : Reply} {timeout : Nat} (h : reply.delay ≤ timeout) :
    reply.text timeout = reply.result.bind Output.text := by
  rw [Reply.text, Reply.within, if_pos h]

theorem Reply.text_of_late {reply : Reply} {timeout : Nat} (h : timeout < reply.delay) :
    reply.text timeout = .error (timedOut timeout) := by
  rw [Reply.text, Reply.within, if_neg (Nat.not_le.mpr h)]
  rfl

end Command

end HostTelemetry
