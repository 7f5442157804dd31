import HostTelemetry.Json.Value
import HostTelemetry.Reading.Basic
import HostTelemetry.Sample.Fault

namespace HostTelemetry.Reading

-- The text from the first opening brace to the last closing brace after it.
def objectSpan? (cs : List Char) : Option (List Char) :=
  match ((cs.dropWhile (· ≠ '\x7b')).reverse.dropWhile (· ≠ '\x7d')).reverse with
  | [] => none
  | span => some span

-- Reads a text as one object; the error says why it is none.
def readObject (cs : List Char) : Except String Fields :=
  match Json.parseChars cs with
  | .ok (.object fields) => .ok fields
  | .ok v => .error ("top-level JSON is not an object (" ++ v.kind ++ ")")
  | .error e => .error (e.message cs)

-- Finds the report in what a host printed: banners and warnings may stand around
-- it. When there is no span to try, the reason is that of the whole text.
def extractObject (output : String) : Except SampleFault Fields :=
  let cs := Text.trimChars output.toList
  if cs.isEmpty then .error (.malformedOutput "empty output" output)
  else
    match readObject cs with
    | .ok fields => .ok fields
    | .error reason =>
        match objectSpan? cs with
        | none => .error (.malformedOutput reason output)
        | some span =>
            match readObject span with
            | .ok fields => .ok fields
            | .error reason => .error (.malformedOutput reason output)

def parse (output : String) : Except SampleFault Reading :=
  (extractObject output).map ofFields

end HostTelemetry.Reading
