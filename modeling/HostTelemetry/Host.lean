import HostTelemetry.Json.Basic

namespace HostTelemetry

-- A host to be sampled. Its name is its identity everywhere; its address, user
-- name, password and key path are only for logging in.
structure Host where
  name : String
  address : String
  port : Nat
  username : String
  password : Option String
  key : Option String

namespace Host

def defaultPort : Nat := 22

def target (h : Host) : String :=
  h.username ++ "@" ++ h.address

def mask : String := "**REDACTED**"

-- What may be shown of a host: that it has a secret, not the secret.
def redacted (h : Host) : Host where
  name := h.name
  address := mask
  port := h.port
  username := mask
  password := h.password.map fun _ => mask
  key := h.key.map fun _ => mask

end Host

-- A field that is left out when there is nothing to write.
def Json.optionField (name : String) : Option String → List (String × Json)
  | none => []
  | some s => [(name, .text s)]

def Host.toJson (h : Host) : Json :=
  .ofKeyed ([("name", .text h.name), ("host", .text h.address), ("port", .int h.port),
    ("username", .text h.username)] ++ Json.optionField "password" h.password ++
    Json.optionField "key" h.key)

end HostTelemetry
