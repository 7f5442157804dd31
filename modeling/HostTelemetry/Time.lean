namespace HostTelemetry.Time

-- Times are counted in whole milliseconds; rates take them in seconds.
def seconds (ms : Nat) : Float :=
  Float.ofNat (ms / 1000) + Float.ofNat (ms % 1000 * 1000000) / 1e9

end HostTelemetry.Time
