namespace HostTelemetry.Stream

-- Carries values to any number of receivers. One that falls behind loses the
-- oldest values.
structure Channel (α : Type) where
  capacity : Nat
  pending : List (List α)

namespace Channel

variable {α : Type}

-- The least power of two that is not less.
def roundUp (capacity : Nat) : Nat :=
  if capacity ≤ 1 then 1 else Nat.pow 2 ((capacity - 1).log2 + 1)

def ofCapacity (capacity : Nat) : Channel α := ⟨roundUp capacity, []⟩

def keepLast (count : Nat) (values : List α) : List α :=
  values.drop (values.length - count)

def subscribe (c : Channel α) : Channel α :=
  { c with pending := c.pending ++ [[]] }

def send (v : α) (c : Channel α) : Channel α :=
  { c with pending := c.pending.map fun values => keepLast c.capacity (values ++ [v]) }

-- What a receiver has not taken yet.
def waiting (c : Channel α) (receiver : Nat) : List α :=
  (c.pending[receiver]?).getD []

def clear (c : Channel α) (receiver : Nat) : Channel α :=
  { c with pending := c.pending.set receiver [] }

end Channel

end HostTelemetry.Stream
