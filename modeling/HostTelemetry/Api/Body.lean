import HostTelemetry.Api.MediaType
import HostTelemetry.Api.Message
import HostTelemetry.Json.Value

namespace HostTelemetry.Api

-- Why the body of a request is refused.
inductive BodyFault where
  | notJson
  | tooLarge
  | malformed
  | shape
  deriving DecidableEq

namespace Body

open Json (Reader skipSpace widen failAt failBefore expect foldList foldObject afterColon
  readScalar skipValue readAll length_le_of_cons_le)

def text? : Json → Option (Option String)
  | .null => some none
  | .text s => some (some s)
  | _ => none

-- A text or null.
def textReader : Reader (Option String) := fun s =>
  match skipSpace s with
  | ⟨[], _⟩ => failBefore .eofValue []
  | ⟨c :: rest, h⟩ =>
      if c = '[' ∨ c = '\x7b' then failAt .shape (c :: rest)
      else widen h (expect text? (readScalar true) (c :: rest))

-- The command may be given once; fields of other names are passed over.
def readField (command : Option (Option String)) (name : String) :
    Reader (Option (Option String)) :=
  if name = "command" then
    match command with
    | none => (afterColon textReader).map some
    | some _ => fun s => failBefore .shape s
  else (afterColon skipValue).map fun _ => command

def readItem : Option (Option String) → Reader (Option (Option String))
  | none => textReader.map some
  | some _ => fun s => failBefore .trailingText s

-- An object with the command, or a list of nothing but it.
def reader : Reader (Option String) := fun s =>
  match skipSpace s with
  | ⟨[], _⟩ => failBefore .eofValue []
  | ⟨c :: rest, h⟩ =>
      if c = '[' then
        widen (length_le_of_cons_le h) ((foldList readItem true none).map Option.join rest)
      else if c = '\x7b' then
        widen (length_le_of_cons_le h) ((foldObject true readField true none).map Option.join rest)
      else widen h (expect (fun _ => none) (readScalar true) (c :: rest))

def faultOf (fault : Json.Fault) : BodyFault :=
  if fault.problem = .shape then .shape else .malformed

def isJson (contentType : String) : Bool :=
  (MediaType.parse? contentType).any (·.isJson)

-- The most bytes that are read of a body.
def limit : Nat := 2 * 1024 * 1024

-- Stands for bytes that are no text. An escaped half of a character is passed over where
-- nobody looks at the text and refused where it is read, like those bytes; the character
-- before it keeps it apart from an escape that goes before.
def illFormed : List Char := [Text.Utf8.replacement, '\\', 'u', 'd', 'c', '0', '0']

def text (body : Body) : List Char :=
  (Text.Utf8.scan body.bytes).flatMap fun
    | some c => [c]
    | none => illFormed

-- The command that a body asks for. Without a content type the body is not read.
def command? (contentType : Option String) (body : Body) : Except BodyFault (Option String) :=
  match contentType with
  | none => .ok none
  | some contentType =>
      if !isJson contentType then .error .notJson
      else if limit < body.bytes.length then .error .tooLarge
      else (readAll reader body.text).mapError faultOf

end Body

end HostTelemetry.Api
