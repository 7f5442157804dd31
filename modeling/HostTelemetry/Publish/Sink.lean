import HostTelemetry.Entity
import HostTelemetry.Json.Printer

namespace HostTelemetry.Publish

-- Where values and announcements go. Either call may fail, and either way the
-- sink may change.
structure Sink (σ : Type) where
  publish : String → Keyed Json → σ → Except String Unit × σ
  announce : String → Category → List String → σ → Except String Unit × σ

def succeeded : Except String Unit → Bool
  | .ok () => true
  | .error _ => false

-- One line of the log, as the log sink writes it.
inductive LogLine where
  | stats (host : String) (payload : Keyed Json)
  | entities (host : String) (category : Category) (keys : List String)

-- Takes note of every call and never fails.
def logSink : Sink (List LogLine) where
  publish host payload log := (.ok (), log ++ [.stats host payload])
  announce host category keys log := (.ok (), log ++ [.entities host category keys])

end HostTelemetry.Publish
