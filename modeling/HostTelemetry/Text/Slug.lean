namespace HostTelemetry.Text

def isWordChar (c : Char) : Bool :=
  c.isAlphanum || c == '_'

-- `inRun` holds while the last character read was replaced, so that a run of
-- replaced characters leaves a single underscore.
def slugChars (inRun : Bool) : List Char → List Char
  | [] => []
  | c :: cs =>
      if isWordChar c then c.toLower :: slugChars false cs
      else if inRun then slugChars true cs
      else '_' :: slugChars true cs

-- The lowercase form of a remote name that is safe inside keys and topics.
def slug (name : String) : String :=
  String.ofList (slugChars false name.toList)

end HostTelemetry.Text
