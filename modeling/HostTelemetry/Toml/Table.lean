import HostTelemetry.Toml.Basic

namespace HostTelemetry.Toml

abbrev Change := Origin → Fields → Option Fields

-- Follows a path of keys and changes the table at its end. Missing tables on the
-- way are made as `missing`. An inline table is closed; a table that has a header
-- is closed to dotted keys.
def updateAt (missing : Origin) (change : Change) (origin : Origin) (fields : Fields) :
    List String → Option Fields
  | [] => change origin fields
  | key :: path =>
      match Keyed.find? key fields with
      | none =>
          (updateAt missing change missing [] path).map fun inner =>
            Keyed.insert key (.table missing inner) fields
      | some (.table kind inner) =>
          if kind = .inline ∨ (missing = .dotted ∧ kind = .header) then none
          else
            (updateAt missing change kind inner path).map fun inner =>
              Keyed.insert key (.table kind inner) fields
      | some (.tables (part :: parts)) =>
          (updateAt missing change .header part path).map fun part =>
            Keyed.insert key (.tables (part :: parts)) fields
      | some _ => none

def addValue (key : String) (v : Toml) (fields : Fields) : Option Fields :=
  match Keyed.find? key fields with
  | none => some (Keyed.insert key v fields)
  | some _ => none

-- A value under a dotted key goes into tables that only dotted keys have made.
def assign (path : List String) (key : String) (v : Toml) (fields : Fields) : Option Fields :=
  updateAt .dotted
    (fun origin fields =>
      if path.isEmpty || origin = .dotted then addValue key v fields else none)
    .header fields path

-- A header gives a table its own place, once.
def openTable (key : String) : Change := fun _ fields =>
  match Keyed.find? key fields with
  | none => some (Keyed.insert key (.table .header []) fields)
  | some (.table .path inner) => some (Keyed.insert key (.table .header inner) fields)
  | some _ => none

def appendTable (key : String) : Change := fun _ fields =>
  match Keyed.find? key fields with
  | none => some (Keyed.insert key (.tables [[]]) fields)
  | some (.tables parts) => some (Keyed.insert key (.tables ([] :: parts)) fields)
  | some _ => none

end HostTelemetry.Toml
