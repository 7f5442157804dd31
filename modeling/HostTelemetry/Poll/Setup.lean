import HostTelemetry.Poll.Loop
import HostTelemetry.Remote.Script
import HostTelemetry.Settings.Basic

namespace HostTelemetry.Poll

-- How the settings want hosts to be sampled.
def Plan.ofSettings (s : Settings) : Plan where
  timeout := s.polling.commandTimeout * 1000
  command := s.polling.command.getD Script.text
  disabled := s.publishing.disabledKeys

def Cadence.ofSettings (s : Settings) : Cadence where
  interval := s.polling.effectiveInterval * 1000
  positive := Nat.mul_pos (Nat.lt_of_lt_of_le (by decide) (Nat.le_max_right ..)) (by decide)

end HostTelemetry.Poll
