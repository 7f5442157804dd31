import HostTelemetry.Decimal.Binary

namespace HostTelemetry.Decimal

-- Rounds a quotient to the nearest integer, a half to the even neighbour.
def roundDiv (num den : Nat) : Nat :=
  let q := num / den
  let r := num % den
  if 2 * r < den then q
  else if den < 2 * r then q + 1
  else if q % 2 = 0 then q else q + 1

-- A number of tenths with one digit after the point.
def showTenths (tenths : Nat) : String :=
  Nat.repr (tenths / 10) ++ "." ++ Nat.repr (tenths % 10)

-- A finite float that is not negative, with one digit after the point, rounded on
-- its exact binary value.
def showOnePlace (f : Float) : String :=
  let b := Binary.ofFloat f
  showTenths
    (roundDiv (b.mantissa * Nat.pow 2 b.exponent.toNat * 10) (Nat.pow 2 (-b.exponent).toNat))

end HostTelemetry.Decimal
