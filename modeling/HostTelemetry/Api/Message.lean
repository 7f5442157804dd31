import HostTelemetry.Json.Basic
import HostTelemetry.Text.Utf8

namespace HostTelemetry.Api

structure Body where
  bytes : List UInt8

instance : Coe String Body := ⟨fun text => ⟨Text.Utf8.encode text⟩⟩

structure Request where
  method : String
  address : String
  contentType : Option String
  body : Body

inductive Status where
  | ok
  | badRequest
  | forbidden
  | notFound
  | methodNotAllowed
  | tooLarge
  | unsupportedMedia
  | unprocessable
  | badGateway
  deriving DecidableEq

def Status.code : Status → Nat
  | ok => 200
  | badRequest => 400
  | forbidden => 403
  | notFound => 404
  | methodNotAllowed => 405
  | tooLarge => 413
  | unsupportedMedia => 415
  | unprocessable => 422
  | badGateway => 502

inductive Content where
  | none
  | text (s : String)
  | json (value : Json)

structure Response where
  status : Status
  content : Content

-- Pages of any origin may read any response.
def allowedOrigin : String := "*"

namespace Response

def bare (status : Status) : Response := ⟨status, .none⟩

def ofJson (value : Json) : Response := ⟨.ok, .json value⟩

def ofMessage (status : Status) (message : String) : Response :=
  ⟨status, .json (.ofKeyed [("error", .text message)])⟩

end Response

-- Whoever asks for no content gets none.
def Response.sentFor (request : Request) (r : Response) : Response :=
  if request.method = "HEAD" then { r with content := .none } else r

end HostTelemetry.Api
