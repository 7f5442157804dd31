import HostTelemetry.Keyed
import HostTelemetry.Decimal.Binary

namespace HostTelemetry

-- Integers between -2^63 and 2^64 - 1 stay integers; every other number is a
-- float. The fields of an object are listed in the order in which they are
-- written, which is ascending by name for every object that was read.
inductive Json where
  | null
  | bool (b : Bool)
  | int (n : Int)
  | float (f : Float)
  | text (s : String)
  | list (items : List Json)
  | object (fields : List (String × Json))
  deriving Inhabited

namespace Json

def ofFloat (f : Float) : Json :=
  if Decimal.isFinite f then .float f else .null

def ofOption {α : Type} (write : α → Json) : Option α → Json
  | none => .null
  | some a => write a

def texts (xs : List String) : Json :=
  .list (xs.map .text)

def ofKeyed (fields : List (String × Json)) : Json :=
  .object (Keyed.ofList fields)

def isNull : Json → Bool
  | .null => true
  | _ => false

def field? (name : String) : Json → Option Json
  | .object fields => Keyed.find? name fields
  | _ => none

-- The nearest float of a number.
def toFloat? : Json → Option Float
  | .int n => some (Float.ofInt n)
  | .float f => some f
  | _ => none

end Json

end HostTelemetry
