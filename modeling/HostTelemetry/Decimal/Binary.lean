namespace HostTelemetry.Decimal

-- The magnitude of a finite float: `mantissa * 2 ^ exponent`. At a power of two
-- the value below is only half as far away as the value above.
structure Binary where
  mantissa : Nat
  exponent : Int
  narrowBelow : Bool

def isNegative (f : Float) : Bool :=
  Nat.pow 2 63 ≤ f.toBits.toNat

def isFinite (f : Float) : Bool :=
  f.toBits.toNat / Nat.pow 2 52 % Nat.pow 2 11 ≠ 2047

-- Meant for finite floats; the sign bit is ignored.
def Binary.ofFloat (f : Float) : Binary :=
  let bits := f.toBits.toNat
  let scale : Nat := bits / Nat.pow 2 52 % Nat.pow 2 11
  let fraction : Nat := bits % Nat.pow 2 52
  if scale = 0 then ⟨fraction, -1074, false⟩
  else ⟨Nat.pow 2 52 + fraction, (scale : Int) - 1075, fraction == 0 && scale > 1⟩

def Binary.floor (b : Binary) : Nat :=
  b.mantissa * Nat.pow 2 b.exponent.toNat / Nat.pow 2 (-b.exponent).toNat

-- The integer part of a finite float, toward zero.
def truncate (f : Float) : Int :=
  let whole := (Binary.ofFloat f).floor
  if isNegative f then -(whole : Int) else whole

end HostTelemetry.Decimal
