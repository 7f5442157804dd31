import HostTelemetry.Settings.Validate
import HostTelemetry.Store.Files
import HostTelemetry.Text.Utf8

namespace HostTelemetry.Settings

-- Settings cannot be used because their file cannot be read, because its text is no
-- settings, or because of what they say.
inductive LoadFault where
  | file (path : String) (cause : Files.Fault)
  | notText (path : String)
  | malformed
  | invalid (cause : Invalid)
  deriving DecidableEq

def readingMessage (path cause : String) : String :=
  "reading config file " ++ path ++ ": " ++ cause

def LoadFault.message? : LoadFault → Option String
  | file path cause => some (readingMessage path cause.message)
  | notText path => some (readingMessage path "stream did not contain valid UTF-8")
  | malformed => none
  | invalid cause => some cause.message

def load (text : String) : Except LoadFault Settings :=
  match parse? text with
  | none => .error .malformed
  | some s =>
      match s.validate with
      | .error cause => .error (.invalid cause)
      | .ok () => .ok s

-- Settings from what reading their file came to.
def loadFile (path : String) (content : Except Files.Fault (List UInt8)) :
    Except LoadFault Settings :=
  match content with
  | .error cause => .error (.file path cause)
  | .ok bytes =>
      match Text.Utf8.decode? bytes with
      | none => .error (.notText path)
      | some text => load text

end HostTelemetry.Settings
