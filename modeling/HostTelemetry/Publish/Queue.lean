import HostTelemetry.Publish.Sink
import HostTelemetry.Publish.Topic

namespace HostTelemetry.Publish

structure Message where
  topic : String
  retain : Bool
  payload : String
  deriving DecidableEq

-- What can happen on the broker's side.
inductive Disturbance where
  | connected
  | disconnected
  | drained (count : Nat)
  deriving DecidableEq

-- What happens around one message: before the link is looked at, and between that look
-- and the moment the message can be put into the queue.
structure Moment where
  before : List Disturbance
  within : List Disturbance
  deriving DecidableEq

-- The queue towards a broker. `accepted` lists all messages ever put into it;
-- `upcoming` tells what happens around each of the next messages.
structure Link where
  isConnected : Bool
  queue : List Message
  accepted : List Message
  upcoming : List Moment

namespace Link

def capacity : Nat := 64

def down : Link := ⟨false, [], [], []⟩

def disturb (l : Link) : Disturbance → Link
  | .connected => { l with isConnected := true }
  | .disconnected => { l with isConnected := false }
  | .drained count => { l with queue := l.queue.drop count }

def moment (l : Link) : Moment :=
  l.upcoming.headD ⟨[], []⟩

-- The link as the next message finds it.
def found (l : Link) : Link :=
  { l.moment.before.foldl disturb l with upcoming := l.upcoming.tail }

-- The link as it is by the time the next message can be put into the queue.
def advance (l : Link) : Link :=
  l.moment.within.foldl disturb l.found

def isWildcard (c : Char) : Bool :=
  c == '+' || c == '#'

def canTake (l : Link) (topic : String) : Bool :=
  l.queue.length < capacity && !topic.toList.any isWildcard

def notConnectedMessage (b : Broker) : String :=
  "MQTT broker " ++ b.host ++ ":" ++ Nat.repr b.port ++ " not connected"

def refusedMessage : String :=
  "MQTT request queue unavailable: Failed to send mqtt requests to eventloop"

def put (l : Link) (m : Message) : Link :=
  { l with queue := l.queue ++ [m], accepted := l.accepted ++ [m] }

-- A message is taken at once or refused at once. The link is looked at first, and may
-- change before the message reaches the queue.
def send (b : Broker) (m : Message) (l : Link) : Except String Unit × Link :=
  if !l.found.isConnected then (.error (notConnectedMessage b), l.advance)
  else if !l.advance.canTake m.topic then (.error refusedMessage, l.advance)
  else (.ok (), l.advance.put m)

def stateMessage (b : Broker) (host : String) (payload : Keyed Json) : Message :=
  ⟨stateTopic b.topicPrefix host, false, (Json.object payload).render⟩

def discoveryMessage (b : Broker) (host key : String) : Message :=
  ⟨discoveryTopic b.discoveryPrefix host key, true,
    (discoveryConfig b.topicPrefix host key).render⟩

-- One message after the other, up to the first that fails.
def sendAll (b : Broker) : List Message → Link → Except String Unit × Link
  | [], l => (.ok (), l)
  | m :: rest, l =>
      match send b m l with
      | (.ok (), l) => sendAll b rest l
      | (.error e, l) => (.error e, l)

end Link

def brokerSink (b : Broker) : Sink Link where
  publish host payload := Link.send b (Link.stateMessage b host payload)
  announce host _ keys := Link.sendAll b (keys.map (Link.discoveryMessage b host))

end HostTelemetry.Publish
