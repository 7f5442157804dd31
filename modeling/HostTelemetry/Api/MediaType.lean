namespace HostTelemetry.Api

-- A media type such as `application/vnd.api+json`, whose suffix is `json`.
structure MediaType where
  category : String
  subtype : String
  suffix : Option String
  deriving DecidableEq

namespace MediaType

def isTokenChar (c : Char) : Bool :=
  c.isAlphanum || "!#$%&'*+-.^_`|~".toList.contains c

def isQuotedChar (c : Char) : Bool :=
  32 ≤ c.toNat ∧ c.toNat < 127

-- What the parameters of a media type have come to after some of their characters.
inductive Progress where
  | separated
  | blank
  | name
  | equals
  | token
  | opened
  | quoted
  | closed
  deriving DecidableEq

-- Blanks may stand before a name and after a quoted value. Only a token may be
-- empty, and only at the very end.
def Progress.next? : Progress → Char → Option Progress
  | separated, c | blank, c =>
      if c = ' ' then some blank else if isTokenChar c then some name else none
  | name, c => if c = '=' then some equals else if isTokenChar c then some name else none
  | equals, c => if c = '"' then some opened else if isTokenChar c then some token else none
  | token, c => if c = ';' then some separated else if isTokenChar c then some token else none
  | opened, c => if isQuotedChar c then some quoted else none
  | quoted, c => if c = '"' then some closed else if isQuotedChar c then some quoted else none
  | closed, c => if c = ';' then some separated else if c = ' ' then some closed else none

def Progress.isComplete : Progress → Bool
  | separated | equals | token | closed => true
  | blank | name | opened | quoted => false

-- The parameters after the semicolon in front of them.
def areParameters (s : List Char) : Bool :=
  match s.foldlM Progress.next? .separated with
  | some progress => progress.isComplete
  | none => false

def isEnd : List Char → Bool → Bool
  | [], _ => true
  | c :: rest, hasName => c = ';' && hasName && areParameters rest

-- Splits a subtype at its last plus sign; one in front is part of it.
def splitSuffix (s : List Char) : List Char × Option (List Char) :=
  let suffix := s.reverse.takeWhile (· ≠ '+')
  match (s.reverse.drop suffix.length).drop 1 with
  | [] => (s, none)
  | before => (before.reverse, some suffix.reverse)

def lowered (cs : List Char) : String :=
  String.ofList (cs.map Char.toLower)

def parse? (text : String) : Option MediaType :=
  let (category, rest) := text.toList.span isTokenChar
  match category, rest with
  | _ :: _, '/' :: rest =>
      let (name, rest) := rest.span isTokenChar
      if isEnd rest !name.isEmpty then
        let (subtype, suffix) := splitSuffix name
        some ⟨lowered category, lowered subtype, suffix.map lowered⟩
      else none
  | _, _ => none

def isJson (m : MediaType) : Bool :=
  m.category = "application" ∧ (m.subtype = "json" ∨ m.suffix = some "json")

end MediaType

end HostTelemetry.Api
