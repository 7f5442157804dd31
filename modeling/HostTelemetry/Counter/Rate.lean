import HostTelemetry.Keyed

namespace HostTelemetry.Counter

-- The arithmetic that rates need. Samples are measured in floats; the laws of the
-- meter are those of exact numbers.
class Quantity (α : Type) where
  ofInt : Int → α
  sub : α → α → α
  div : α → α → α
  atLeast : α → α → α
  zero : α
  leastElapsed : α

-- Of a float that is no number the bound is taken.
instance : Quantity Float where
  ofInt := Float.ofInt
  sub := (· - ·)
  div := (· / ·)
  atLeast bound x := if bound < x then x else bound
  zero := 0.0
  leastElapsed := 1e-6

-- The last counts of a pair of counters and when they were read.
structure Baseline (α : Type) where
  first : Int
  second : Int
  time : α

abbrev RateMeter (α : Type) := Keyed (Baseline α)

variable {α : Type} [Quantity α]

-- What a counter gained per second. A counter that fell was reset and gained
-- nothing.
def rate (before now : Int) (elapsed : α) : α :=
  Quantity.atLeast Quantity.zero
    (Quantity.div (Quantity.sub (Quantity.ofInt now) (Quantity.ofInt before)) elapsed)

def Baseline.rates (before now : Baseline α) : α × α :=
  let elapsed := Quantity.atLeast Quantity.leastElapsed (Quantity.sub now.time before.time)
  (rate before.first now.first elapsed, rate before.second now.second elapsed)

def ratesSince (before : Option (Baseline α)) (now : Baseline α) : α × α :=
  match before with
  | none => (Quantity.zero, Quantity.zero)
  | some before => before.rates now

-- The new counts become the baseline even when a counter fell.
def RateMeter.measure (meter : RateMeter α) (key : String) (now : Baseline α) :
    (α × α) × RateMeter α :=
  (ratesSince (meter.find? key) now, meter.insert key now)

end HostTelemetry.Counter
