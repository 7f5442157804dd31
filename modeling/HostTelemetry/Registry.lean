import HostTelemetry.Entity

namespace HostTelemetry

structure Announced where
  host : String
  category : Category
  id : String
  deriving DecidableEq

-- What has been announced so far. Entries are only ever added.
abbrev Registry := List Announced

namespace Registry

def isKnown (r : Registry) (host : String) (category : Category) (id : String) : Bool :=
  r.contains ⟨host, category, id⟩

-- The unknown identifiers among those observed, each where it is first seen.
def peek (r : Registry) (host : String) (category : Category) (observed : List String) :
    List String :=
  observed.foldl (fun fresh id =>
    if r.isKnown host category id || fresh.contains id then fresh else fresh ++ [id]) []

def record (r : Registry) (host : String) (category : Category) (ids : List String) : Registry :=
  r ++ ids.map fun id => ⟨host, category, id⟩

def announce (r : Registry) (host : String) (category : Category) (observed : List String) :
    List String × Registry :=
  let fresh := r.peek host category observed
  (fresh, r.record host category fresh)

end Registry

end HostTelemetry
