import HostTelemetry.Json.Printer
import HostTelemetry.Text.Blank
import HostTelemetry.Decimal.Numeral

namespace HostTelemetry

-- The integers that a reading can hold.
def minInt : Int := -(Nat.pow 2 63 : Int)

def maxInt : Int := (Nat.pow 2 63 : Int) - 1

def clampInt (n : Int) : Int :=
  max minInt (min maxInt n)

def inIntRange (n : Int) : Bool :=
  minInt ≤ n && n ≤ maxInt

namespace Json

-- Numbers lose their fraction and stop at the ends of the range; a text has to
-- spell an integer within it.
def coerceInt : Json → Option Int
  | .int n => some (clampInt n)
  | .float f => if Decimal.isFinite f then some (clampInt (Decimal.truncate f)) else none
  | .text s => (Decimal.readInt? (Text.trim s)).filter inIntRange
  | _ => none

def coerceFloat (v : Json) : Option Float :=
  let number :=
    match v with
    | .text s => Decimal.readFloat? (Text.trim s)
    | v => v.toFloat?
  number.filter Decimal.isFinite

def textOf : Json → String
  | .text s => s
  | .null => ""
  | v => v.render

def kind : Json → String
  | .null => "null"
  | .bool _ => "bool"
  | .int _ => "number"
  | .float _ => "number"
  | .text _ => "string"
  | .list _ => "list"
  | .object _ => "map"

end Json

end HostTelemetry
