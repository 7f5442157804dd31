import HostTelemetry.Text.Hex
import HostTelemetry.Text.Utf8

namespace HostTelemetry.Api

-- What an address leads to. A host or action is named as the address spells it,
-- with its percent signs.
inductive Route where
  | home
  | version
  | hosts
  | host (name : String)
  | action (host action : String)
  | settings
  | stream
  deriving DecidableEq

-- An address without query and fragment.
def path (address : List Char) : List Char :=
  address.takeWhile fun c => c ≠ '?' ∧ c ≠ '#'

-- The parts of a path between its slashes, of which there is one more than slashes.
def segments : List Char → List (List Char)
  | [] => [[]]
  | c :: rest =>
      if c = '/' then [] :: segments rest
      else
        match segments rest with
        | [] => [[c]]
        | first :: others => (c :: first) :: others

namespace Route

-- Each part has to be there: an empty name leads nowhere.
def ofSegments? : List String → Option Route
  | ["", ""] => some home
  | ["", "version"] => some version
  | ["", "api", "hosts"] => some hosts
  | ["", "api", "config"] => some settings
  | ["", "api", "hosts", name] => if name = "" then none else some (host name)
  | ["", "api", "hosts", name, "actions", verb] =>
      if name = "" ∨ verb = "" then none else some (action name verb)
  | ["", "ws", "stats"] => some stream
  | _ => none

def ofAddress? (address : String) : Option Route :=
  ofSegments? ((segments (path address.toList)).map String.ofList)

-- Whatever can be read can also be asked for without its content.
def allows (method : String) : Route → Bool
  | action _ _ => method = "POST"
  | stream => method = "GET"
  | _ => method = "GET" ∨ method = "HEAD"

end Route

-- A percent sign that no two hexadecimal digits follow stands for itself.
def percentDecode : List Char → List UInt8
  | '%' :: a :: b :: rest =>
      match Text.hexNumber? [a, b] with
      | some n => n.toUInt8 :: percentDecode rest
      | none => String.utf8EncodeChar '%' ++ percentDecode (a :: b :: rest)
  | c :: rest => String.utf8EncodeChar c ++ percentDecode rest
  | [] => []

-- The name that a part of an address spells, if that is text at all.
def spelled? (part : String) : Option String :=
  Text.Utf8.decode? (percentDecode part.toList)

end HostTelemetry.Api
