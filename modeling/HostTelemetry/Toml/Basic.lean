import HostTelemetry.Keyed

namespace HostTelemetry

-- How a table came about: by its own header, only as a part of the path of
-- another header, as a part of a dotted key, or inline as a value.
inductive Toml.Origin where
  | header
  | path
  | dotted
  | inline
  deriving DecidableEq

-- `tables` is what headers in double brackets build, the latest table first.
inductive Toml where
  | text (s : String)
  | int (n : Int)
  | float (f : Float)
  | bool (b : Bool)
  | datetime
  | list (items : List Toml)
  | table (origin : Toml.Origin) (fields : List (String × Toml))
  | tables (parts : List (List (String × Toml)))

namespace Toml

abbrev Fields := Keyed Toml

def items? : Toml → Option (List Toml)
  | list items => some items
  | tables parts => some (parts.reverse.map (table .header))
  | _ => none

def text? : Toml → Option String
  | text s => some s
  | _ => none

def bool? : Toml → Option Bool
  | bool b => some b
  | _ => none

def natBelow? (bound : Nat) : Toml → Option Nat
  | int n => if 0 ≤ n ∧ n < bound then some n.toNat else none
  | _ => none

-- A section is a table, or a list that gives its fields in their order. A date
-- has none of the fields that a section asks for.
def section? (order : List String) : Toml → Option Fields
  | table _ fields => some fields
  | datetime => some []
  | list items => some (order.zip items)
  | tables parts => some (order.zip (parts.reverse.map (table .header)))
  | _ => none

end Toml

end HostTelemetry
