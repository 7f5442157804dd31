import HostTelemetry.Json.Reader
import HostTelemetry.Decimal.Numeral

namespace HostTelemetry.Json

theorem dropDigits_length_le (s : List Char) : (s.dropWhile Char.isDigit).length ≤ s.length :=
  (List.dropWhile_suffix _).length_le

theorem splitSign_length_le (s : List Char) : (Decimal.splitSign s).2.length ≤ s.length := by
  unfold Decimal.splitSign
  split
  · exact Nat.le_succ _
  · exact Nat.le_succ _
  · exact Nat.le_refl _

-- A zero stands alone before the point.
def readWhole : Reader (List Char)
  | [] => failBefore .eofValue []
  | c :: rest =>
      if c = '0' then
        if (rest.headD ' ').isDigit then failAt .badNumber rest
        else .ok (['0'], ⟨rest, length_lt_cons rest⟩)
      else if c.isDigit then
        .ok (c :: rest.takeWhile Char.isDigit,
          ⟨rest.dropWhile Char.isDigit, Nat.lt_succ_of_le (dropDigits_length_le rest)⟩)
      else failAt .badNumber (c :: rest)

-- The digits of a run that must not be empty.
def readDigits (s : List Char) : Except Fault (List Char × Within s) :=
  if s.isEmpty then failBefore .eofValue s
  else if (s.headD ' ').isDigit then
    .ok (s.takeWhile Char.isDigit, ⟨s.dropWhile Char.isDigit, dropDigits_length_le s⟩)
  else failAt .badNumber s

-- The digits after a point; none when there is no point.
def readFraction (s : List Char) : Except Fault (List Char × Within s) :=
  match s with
  | '.' :: rest =>
      match readDigits rest with
      | .error e => .error e
      | .ok (digits, r) => .ok (digits, ⟨r.1, r.le_cons⟩)
  | s => .ok ([], .whole s)

-- How many digits follow the one with which the number passes 2^31 - 1.
def overrun (n : Nat) : List Char → Option Nat
  | [] => none
  | c :: cs =>
      let n := n * 10 + Decimal.digitValue c
      if Nat.pow 2 31 ≤ n then some cs.length else overrun n cs

-- The exponent of a number, if it has one. A positive exponent of 2^31 or more is
-- refused as soon as it is seen, unless the number is zero whatever the exponent.
def readPower (isZero : Bool) (s : List Char) : Except Fault (Option Int × Within s) :=
  match s with
  | [] => .ok (none, .whole [])
  | c :: rest =>
      if c = 'e' ∨ c = 'E' then
        let signed := Decimal.splitSign rest
        match readDigits signed.2 with
        | .error e => .error e
        | .ok (digits, r) =>
            match if signed.1 || isZero then none else overrun 0 digits with
            | some more => .error ⟨.numberRange, byteLength r.1 + more⟩
            | none =>
                let n := Decimal.ofDigits digits
                .ok (some (if signed.1 then -(n : Int) else n),
                  ⟨r.1, Nat.le_succ_of_le (Nat.le_trans r.2 (splitSign_length_le rest))⟩)
      else .ok (none, .whole (c :: rest))

-- Reads on as long as the number fits 64 bits. What is left counts for nothing but its
-- length.
def takeDigits (n : Nat) : List Char → Nat × List Char
  | [] => (n, [])
  | c :: cs =>
      let more := n * 10 + Decimal.digitValue c
      if more < Nat.pow 2 64 then takeDigits more cs else (n, c :: cs)

def tenTo (n : Nat) : Float := Float.ofScientific 1 false n

-- Multiplies by a power of ten. A power beyond the range of floats is taken in parts when
-- the number gets smaller by it; when it gets larger, it gets past all floats.
def scale (f : Float) (exponent : Int) : Float :=
  if exponent.natAbs ≤ 308 then
    if 0 ≤ exponent then f * tenTo exponent.natAbs else f / tenTo exponent.natAbs
  else if f == 0 then f
  else if 0 ≤ exponent then Decimal.infinity
  else scale (f / tenTo 308) (exponent + 308)
  termination_by exponent.natAbs

-- A float close to the number that is written, but not always the closest one: the digits
-- that fit 64 bits are rounded to a float, and that is scaled.
def floatOf (whole fraction : List Char) (power : Int) : Float :=
  let (n, dropped) := takeDigits 0 whole
  let (n, ignored) := takeDigits n fraction
  scale (UInt64.ofNat n).toFloat
    (dropped.length + power - (fraction.length - ignored.length : Nat))

-- A number without point and exponent is an integer when it fits 64 bits. A negative
-- zero is none.
def integerOf? (negative : Bool) (digits : Nat) : Option Int :=
  if negative then
    if 0 < digits ∧ digits ≤ Nat.pow 2 63 then some (-(digits : Int)) else none
  else if digits < Nat.pow 2 64 then some digits
  else none

def numberOf (negative : Bool) (whole fraction : List Char) (power : Option Int) : Json :=
  let integer :=
    if fraction.isEmpty && power.isNone then integerOf? negative (Decimal.ofDigits whole) else none
  match integer with
  | some n => .int n
  | none => .float (Decimal.signed negative (floatOf whole fraction (power.getD 0)))

def isInRange : Json → Bool
  | .float f => Decimal.isFinite f
  | _ => true

-- A number without its sign. When `strict`, a number past the range of floats is
-- refused once it has been read.
def readUnsigned (strict negative : Bool) : Reader Json := fun s =>
  match readWhole s with
  | .error e => .error e
  | .ok (whole, r) =>
      match readFraction r.1 with
      | .error e => .error e
      | .ok (fraction, r') =>
          match readPower (!strict || Decimal.ofDigits (whole ++ fraction) = 0) r'.1 with
          | .error e => .error e
          | .ok (power, r'') =>
              let number := numberOf negative whole fraction power
              if strict && !isInRange number then failBefore .numberRange r''.1
              else
                .ok (number,
                  ⟨r''.1, Nat.lt_of_le_of_lt (Nat.le_trans r''.2 r'.2) r.2⟩)

def readNumber (strict : Bool) : Reader Json
  | [] => failBefore .eofValue []
  | c :: rest =>
      if c = '-' then widen (length_le_cons rest) (readUnsigned strict true rest)
      else readUnsigned strict false (c :: rest)

end HostTelemetry.Json
