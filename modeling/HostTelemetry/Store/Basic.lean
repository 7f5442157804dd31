import HostTelemetry.Json.Printer
import HostTelemetry.Record.Reader
import HostTelemetry.Store.Files
import HostTelemetry.Text.Utf8

namespace HostTelemetry

-- The last record of every host. With a path, the records outlive the process in
-- a file.
structure Store where
  records : Keyed Record
  path : Option Files.Path

namespace Store

-- The step at which opening or saving stopped.
inductive Fault where
  | read (path : Files.Path)
  | makeFolders (folder : List String)
  | write (path : Files.Path)
  | rename (source target : Files.Path)
  deriving DecidableEq

def Fault.message : Fault → String
  | read path => "reading stats file " ++ path.text
  | makeFolders folder => "creating " ++ Files.showFolder folder
  | write path => "writing " ++ path.text
  | rename source target => "renaming " ++ source.text ++ " to " ++ target.text

def inMemory : Store := ⟨[], none⟩

def put (records : Keyed Record) (r : Record) : Keyed Record :=
  records.insert r.name r

def putAll (records : Keyed Record) (rs : List Record) : Keyed Record :=
  rs.foldl put records

def update (s : Store) (rs : List Record) : Store :=
  { s with records := putAll s.records rs }

def get? (s : Store) (name : String) : Option Record :=
  s.records.find? name

def all (s : Store) : List Record :=
  s.records.map Prod.snd

-- Text that cannot be read stands for no records.
def decode (bytes : List UInt8) : List Record :=
  ((Text.Utf8.decode? bytes).bind Record.readList?).getD []

def encode (rs : List Record) : List UInt8 :=
  Text.Utf8.encode (Json.pretty (.list (rs.map Record.toJson)))

-- A store starts empty when there is no file yet.
def openAt (path : Files.Path) (files : Files) : Except Fault Store :=
  match files.read path with
  | .ok bytes => .ok ⟨putAll [] (decode bytes), some path⟩
  | .error .missing => .ok ⟨[], some path⟩
  | .error _ => .error (.read path)

def folderSteps (folder : List String) : List Files.Step :=
  if folder.isEmpty then [] else [.makeFolders folder]

-- The new list is written beside the old one and then takes its place, so the old
-- one is there until the new one is complete.
def steps (path : Files.Path) (rs : List Record) : List Files.Step :=
  folderSteps path.folder ++ [.write path.temporary (encode rs), .rename path.temporary path]

def faultOf : Files.Step → Fault
  | .makeFolders folder => .makeFolders folder
  | .write path _ => .write path
  | .rename source target => .rename source target

def persist (s : Store) (interruption : Option Files.Interruption) (files : Files) :
    Except Fault Unit × Files :=
  match s.path with
  | none => (.ok (), files)
  | some path =>
      match Files.runSteps interruption 0 (steps path s.all) files with
      | (none, files) => (.ok (), files)
      | (some step, files) => (.error (faultOf step), files)

end Store

end HostTelemetry
