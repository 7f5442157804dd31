import HostTelemetry.Text.Quoted

namespace HostTelemetry

-- Why a host gave no sample. The last case keeps the start of what the host
-- printed, so that the cause can be seen later.
inductive SampleFault where
  | connection (cause : String)
  | command (cause : String)
  | malformed (reason excerpt : String)
  deriving DecidableEq

namespace SampleFault

def excerptLength : Nat := 200

def excerpt (s : String) : String :=
  let cs := s.toList
  if cs.length ≤ excerptLength then s
  else String.ofList (cs.take excerptLength) ++ "..."

def malformedOutput (reason output : String) : SampleFault :=
  .malformed reason (excerpt output)

def kind : SampleFault → String
  | connection _ => "connection_failed"
  | command _ => "command_failed"
  | malformed _ _ => "malformed_response"

def message : SampleFault → String
  | connection cause => "connection failed: " ++ cause
  | command cause => "command failed: " ++ cause
  | malformed reason excerpt =>
      "malformed response: " ++ reason ++ "; output: " ++ Text.quoted excerpt

end SampleFault

end HostTelemetry
