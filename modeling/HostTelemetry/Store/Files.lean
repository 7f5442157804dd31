namespace HostTelemetry

namespace Files

inductive Entry where
  | folder
  | file (bytes : List UInt8)
  deriving DecidableEq

structure Path where
  folder : List String
  name : String
  deriving DecidableEq

def showFolder (folder : List String) : String :=
  String.intercalate "/" folder

namespace Path

def full (p : Path) : List String :=
  p.folder ++ [p.name]

def text (p : Path) : String :=
  showFolder p.full

-- What stands before the last dot of a name; a dot in front is part of it.
def stem (name : String) : String :=
  let reversed := name.toList.reverse
  match (reversed.dropWhile (· ≠ '.')).drop 1 with
  | [] => name
  | before => String.ofList before.reverse

-- The file beside `p` that is written before it takes the place of `p`.
def temporary (p : Path) : Path :=
  { p with name := stem p.name ++ ".json.tmp" }

end Path

inductive Fault where
  | missing
  | isFolder
  | notFolder
  deriving DecidableEq

def Fault.message : Fault → String
  | missing => "No such file or directory (os error 2)"
  | isFolder => "Is a directory (os error 21)"
  | notFolder => "Not a directory (os error 20)"

end Files

-- What there is, by the parts of its path. The root is always there.
abbrev Files := List (List String × Files.Entry)

namespace Files

def entry? (files : Files) (path : List String) : Option Entry :=
  (files.find? fun e => e.1 = path).map Prod.snd

def remove (path : List String) (files : Files) : Files :=
  files.filter fun e => e.1 ≠ path

def put (path : List String) (entry : Entry) (files : Files) : Files :=
  files.remove path ++ [(path, entry)]

-- A folder and those that it is in, the outermost first.
def ancestors (folder : List String) : List (List String) :=
  (List.range folder.length).map fun n => folder.take (n + 1)

def folderFault? (files : Files) (folder : List String) : Option Fault :=
  (ancestors folder).findSome? fun path =>
    match files.entry? path with
    | none => some .missing
    | some (.file _) => some .notFolder
    | some .folder => none

def read (files : Files) (p : Path) : Except Fault (List UInt8) :=
  match files.folderFault? p.folder with
  | some fault => .error fault
  | none =>
      match files.entry? p.full with
      | none => .error .missing
      | some .folder => .error .isFolder
      | some (.file bytes) => .ok bytes

def isFile (files : Files) (path : List String) : Bool :=
  match files.entry? path with
  | some (.file _) => true
  | _ => false

def missingFolders (files : Files) (folder : List String) : List (List String) :=
  (ancestors folder).filter fun path => (files.entry? path).isNone

def addFolders (folders : List (List String)) (files : Files) : Files :=
  folders.foldl (fun files path => files.put path .folder) files

def canWrite (files : Files) (p : Path) : Except Fault Unit :=
  match files.read p with
  | .error .missing =>
      match files.folderFault? p.folder with
      | some fault => .error fault
      | none => .ok ()
  | .error fault => .error fault
  | .ok _ => .ok ()

-- One change to what there is. A rename happens as a whole or not at all.
inductive Step where
  | makeFolders (folder : List String)
  | write (path : Path) (bytes : List UInt8)
  | rename (source target : Path)

def Step.run (files : Files) : Step → Except Fault Files
  | .makeFolders folder =>
      if (ancestors folder).any files.isFile then .error .notFolder
      else .ok (files.addFolders (files.missingFolders folder))
  | .write p bytes => (files.canWrite p).map fun _ => files.put p.full (.file bytes)
  | .rename source target =>
      match files.read source with
      | .error fault => .error fault
      | .ok bytes =>
          (files.canWrite target).map fun _ =>
            (files.remove source.full).put target.full (.file bytes)

-- What there is when a step is interrupted: some of the folders, or the file with
-- the first of its bytes.
def Step.halfway (files : Files) (progress : Nat) : Step → Files
  | .makeFolders folder =>
      if (ancestors folder).any files.isFile then files
      else files.addFolders ((files.missingFolders folder).take progress)
  | .write p bytes =>
      match progress, files.canWrite p with
      | done + 1, .ok () => files.put p.full (.file (bytes.take done))
      | _, _ => files
  | .rename _ _ => files

-- Where a sequence of steps breaks off, and how far that step gets.
structure Interruption where
  step : Nat
  progress : Nat

-- Runs steps up to the first that fails; that step is given back.
def runSteps (interruption : Option Interruption) (index : Nat) :
    List Step → Files → Option Step × Files
  | [], files => (none, files)
  | step :: rest, files =>
      match interruption.filter fun i => i.step = index with
      | some i => (some step, step.halfway files i.progress)
      | none =>
          match step.run files with
          | .error _ => (some step, files)
          | .ok files => runSteps interruption (index + 1) rest files

def names (files : Files) (folder : List String) : List String :=
  files.filterMap fun e =>
    if e.1.length = folder.length + 1 ∧ e.1.take folder.length = folder then e.1.getLast? else none

end Files

end HostTelemetry
