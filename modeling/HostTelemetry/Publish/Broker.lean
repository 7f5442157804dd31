import HostTelemetry.Host

namespace HostTelemetry

-- Where values are published, and as whom.
structure Broker where
  host : String
  port : Nat
  username : Option String
  password : Option String
  clientId : String
  topicPrefix : String
  discoveryPrefix : String

namespace Broker

def toJson (b : Broker) : Json :=
  .ofKeyed ([("host", .text b.host), ("port", .int b.port), ("client_id", .text b.clientId),
    ("topic_prefix", .text b.topicPrefix), ("discovery_prefix", .text b.discoveryPrefix)] ++
    Json.optionField "username" b.username ++ Json.optionField "password" b.password)

-- Shows whether there is a login, but not which.
def view (b : Broker) : Json :=
  .ofKeyed [("host", .text b.host), ("port", .int b.port), ("client_id", .text b.clientId),
    ("topic_prefix", .text b.topicPrefix), ("discovery_prefix", .text b.discoveryPrefix),
    ("authenticated", .bool b.username.isSome)]

end Broker

end HostTelemetry
