import HostTelemetry.Api.Body
import HostTelemetry.Api.Order
import HostTelemetry.Api.Path
import HostTelemetry.Store.Basic

namespace HostTelemetry.Api

-- What a request comes to before any host is asked.
inductive Verdict where
  | answer (response : Response)
  | order (order : Order)

def homeText : String := "vserver-stats: polling hosts over SSH"

def versionJson : Json :=
  .ofKeyed [("name", .text "vserver-stats"), ("version", .text "0.1.0")]

def BodyFault.status : BodyFault → Status
  | notJson => .unsupportedMedia
  | tooLarge => .tooLarge
  | malformed => .badRequest
  | shape => .unprocessable

def orderVerdict (settings : Settings) (request : Request) (host action : String) : Verdict :=
  match spelled? host, spelled? action with
  | some host, some action =>
      match Body.command? request.contentType request.body with
      | .error fault => .answer (.bare fault.status)
      | .ok asked =>
          match order settings host action asked with
          | .error refusal => .answer refusal.response
          | .ok order => .order order
  | _, _ => .answer (.bare .badRequest)

def hostResponse (store : Store) (name : String) : Response :=
  match store.get? name with
  | some r => .ofJson r.toJson
  | none => .ofMessage .notFound ("unknown host " ++ name)

-- What a route has to tell. The stream is only for clients that change protocols.
def routeVerdict (settings : Settings) (store : Store) (request : Request) : Route → Verdict
  | .home => .answer ⟨.ok, .text homeText⟩
  | .version => .answer (.ofJson versionJson)
  | .hosts => .answer (.ofJson (.list (store.all.map Record.toJson)))
  | .host name =>
      match spelled? name with
      | some name => .answer (hostResponse store name)
      | none => .answer (.bare .badRequest)
  | .settings => .answer (.ofJson settings.view)
  | .stream => .answer (.bare .badRequest)
  | .action host action => orderVerdict settings request host action

def verdict (settings : Settings) (store : Store) (request : Request) : Verdict :=
  if request.method = "OPTIONS" then .answer (.bare .ok)
  else
    match Route.ofAddress? request.address with
    | none => .answer (.bare .notFound)
    | some route =>
        if route.allows request.method then routeVerdict settings store request route
        else .answer (.bare .methodNotAllowed)

-- What runs commands on hosts. How it answers may depend on all it was asked before.
structure Executor (ε : Type) where
  execute : Host → (command : String) → (timeout : Nat) → ε → Command.Reply × ε

-- A response and the orders that were carried out for it.
structure Exchange where
  response : Response
  orders : List Order

variable {ε : Type}

def respond (executor : Executor ε) (settings : Settings) (store : Store) (request : Request)
    (s : ε) : Exchange × ε :=
  match verdict settings store request with
  | .answer response => (⟨response.sentFor request, []⟩, s)
  | .order order =>
      let (reply, s) := executor.execute order.host order.command order.timeout s
      (⟨(order.response reply).sentFor request, [order]⟩, s)

def respondAll (executor : Executor ε) (settings : Settings) (store : Store) :
    List Request → ε → List Exchange × ε
  | [], s => ([], s)
  | request :: rest, s =>
      let (exchange, s) := respond executor settings store request s
      let (exchanges, s) := respondAll executor settings store rest s
      (exchange :: exchanges, s)

end HostTelemetry.Api
