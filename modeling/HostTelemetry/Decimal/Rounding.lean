namespace HostTelemetry.Decimal

-- `acc * base ^ n` by repeated squaring.
def raise (base acc : Float) (n : Nat) : Float :=
  if n = 0 then acc
  else raise (base * base) (if n % 2 = 1 then acc * base else acc) (n / 2)
  termination_by n

-- A negative power is the inverse of the positive one.
def powerOfTen (n : Int) : Float :=
  if n < 0 then 1 / raise 10 1 n.natAbs else raise 10 1 n.natAbs

-- Rounds to a number of decimal places, halves away from zero, on the scaled
-- binary value.
def roundTo (v : Float) (places : Int) : Float :=
  let scale := powerOfTen places
  (v * scale).round / scale

end HostTelemetry.Decimal
