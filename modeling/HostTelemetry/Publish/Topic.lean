import HostTelemetry.Publish.Broker
import HostTelemetry.Publish.Presentation
import HostTelemetry.Text.Slug

namespace HostTelemetry.Publish

def stateTopic (topicPrefix host : String) : String :=
  topicPrefix ++ "/" ++ Text.slug host ++ "/state"

-- The id of one value of one host among all that are announced.
def uniqueId (host key : String) : String :=
  Text.slug host ++ "_" ++ key

def discoveryTopic (discoveryPrefix host key : String) : String :=
  discoveryPrefix ++ "/sensor/" ++ uniqueId host key ++ "/config"

def deviceId (host : String) : String :=
  "vserver_ssh_" ++ Text.slug host

-- What stands for a value until the first one comes.
def placeholder (p : Presentation) : String :=
  if p.isText then "''" else "0"

def valueTemplate (key : String) (p : Presentation) : String :=
  "\x7b\x7b value_json." ++ key ++ " | default(" ++ placeholder p ++ ") \x7d\x7d"

-- The announcement of one value of one host.
def discoveryConfig (topicPrefix host key : String) : Json :=
  let p := Presentation.ofKey key
  .ofKeyed ([("name", .text (host ++ " " ++ key)),
    ("state_topic", .text (stateTopic topicPrefix host)),
    ("value_template", .text (valueTemplate key p)),
    ("unique_id", .text (uniqueId host key)),
    ("device", .ofKeyed [("identifiers", Json.texts [deviceId host]), ("name", .text host)])] ++
    Json.optionField "unit_of_measurement" p.unit ++
    Json.optionField "device_class" p.deviceClass ++
    Json.optionField "state_class" p.stateClass)

end HostTelemetry.Publish
