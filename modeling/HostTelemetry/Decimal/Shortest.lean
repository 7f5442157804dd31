import HostTelemetry.Decimal.Binary

namespace HostTelemetry.Decimal

-- `digits * 10 ^ exponent`
structure Scaled where
  digits : Nat
  exponent : Int

-- Compares `a * 10 ^ i` with `n * 2 ^ j` exactly.
def compareScaled (a : Nat) (i : Int) (n : Nat) (j : Int) : Ordering :=
  compare (a * Nat.pow 10 i.toNat * Nat.pow 2 (-j).toNat)
    (n * Nat.pow 2 j.toNat * Nat.pow 10 (-i).toNat)

-- Whether the float nearest to the decimal is `b`: the reals up to halfway to
-- each neighbour, with the halfway points themselves when the mantissa is even.
def Binary.readsBack (b : Binary) (d : Scaled) : Bool :=
  let lo := if b.narrowBelow then 4 * b.mantissa - 1 else 4 * b.mantissa - 2
  let hi := 4 * b.mantissa + 2
  let ends := b.mantissa % 2 == 0
  let low := compareScaled d.digits d.exponent lo (b.exponent - 2)
  let high := compareScaled d.digits d.exponent hi (b.exponent - 2)
  (low == .gt || (ends && low == .eq)) && (high == .lt || (ends && high == .eq))

-- The multiple of `10 ^ exponent` at or below `b`.
def Binary.floorOn (b : Binary) (exponent : Int) : Nat :=
  b.mantissa * Nat.pow 2 b.exponent.toNat * Nat.pow 10 (-exponent).toNat /
    (Nat.pow 2 (-b.exponent).toNat * Nat.pow 10 exponent.toNat)

-- Of the two neighbours of `b` on the grid of `10 ^ exponent`, the one that reads
-- back as `b`; of two the nearer, and the even one when they are equally near.
def Binary.onGrid (b : Binary) (exponent : Int) : Option Scaled :=
  let below := b.floorOn exponent
  let down : Scaled := ⟨below, exponent⟩
  let up : Scaled := ⟨below + 1, exponent⟩
  match b.readsBack down, b.readsBack up with
  | false, false => none
  | true, false => some down
  | false, true => some up
  | true, true =>
      match compareScaled (2 * below + 1) exponent (2 * b.mantissa) b.exponent with
      | .gt => some down
      | .lt => some up
      | .eq => if below % 2 = 0 then some down else some up

def Binary.firstOnGrid (b : Binary) : Nat → Int → Option Scaled
  | 0, _ => none
  | count + 1, exponent =>
      match b.onGrid exponent with
      | some d => some d
      | none => b.firstOnGrid count (exponent - 1)

-- The least power of ten above a positive value.
def Binary.scale (b : Binary) : Int :=
  let whole := b.floor
  if whole ≠ 0 then ((Nat.toDigits 10 whole).length : Int)
  else
    let inverse := Nat.pow 2 (-b.exponent).toNat / b.mantissa
    1 - ((Nat.toDigits 10 inverse).length : Int)

-- The fewest digits that read back as `b`. Coarser grids come first, and eighteen
-- digits below the scale always suffice; the exact value stands for the case that
-- never happens.
def Binary.shortest (b : Binary) : Scaled :=
  if b.mantissa = 0 then ⟨0, 0⟩
  else
    match b.firstOnGrid 20 (b.scale + 1) with
    | some d => d
    | none =>
        ⟨b.mantissa * Nat.pow 2 b.exponent.toNat * Nat.pow 5 (-b.exponent).toNat,
          -((-b.exponent).toNat : Int)⟩

end HostTelemetry.Decimal
