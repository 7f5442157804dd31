import HostTelemetry.Keyed

namespace HostTelemetry.Counter

-- A counter of microjoules that starts over at its range. `carried` is what the
-- finished rounds add up to.
structure Energy where
  count : Int
  carried : Int
  range : Option Int

namespace Energy

def total (e : Energy) : Int :=
  e.carried + e.count

def known (range : Option Int) : Option Int :=
  range.filter (0 < ·)

def start (count : Int) (range : Option Int) : Energy :=
  ⟨count, 0, known range⟩

-- A counter that fell went round once, if the range is known and explains the
-- count before; otherwise it was reset and what was carried is dropped.
def carry (before : Energy) (count : Int) (range : Option Int) : Int :=
  if count < before.count then
    match range with
    | some range => if before.count ≤ range then before.carried + range else 0
    | none => 0
  else before.carried

def advance (before : Energy) (count : Int) (range : Option Int) : Energy :=
  let range := (known range).or before.range
  ⟨count, carry before count range, range⟩

def next (before : Option Energy) (count : Int) (range : Option Int) : Energy :=
  match before with
  | none => start count range
  | some before => advance before count range

def microjoulesPerKwh : Float := 3.6e12

def kwh (e : Energy) : Float :=
  Float.ofInt e.total / microjoulesPerKwh

end Energy

abbrev EnergyMeter := Keyed Energy

-- A sample without the counter forgets the host.
def EnergyMeter.measure (meter : EnergyMeter) (key : String) (count range : Option Int) :
    Option Energy × EnergyMeter :=
  match count with
  | none => (none, meter.erase key)
  | some count =>
      let e := Energy.next (meter.find? key) count range
      (some e, meter.insert key e)

end HostTelemetry.Counter
