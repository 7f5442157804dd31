import HostTelemetry.Json.Basic
import HostTelemetry.Json.Fault

namespace HostTelemetry.Json

abbrev Within (s : List Char) := { r : List Char // r.length ≤ s.length }

abbrev Shorter (s : List Char) := { r : List Char // r.length < s.length }

-- Takes a value off the front of a text. What is left is shorter, so loops over
-- readers end.
abbrev Reader (α : Type) := (s : List Char) → Except Fault (α × Shorter s)

theorem length_le_cons (s : List Char) : s.length ≤ s.length + 1 :=
  Nat.le_succ _

theorem length_lt_cons (s : List Char) : s.length < s.length + 1 :=
  Nat.lt_succ_self _

theorem length_le_of_cons_le {c : Char} {s t : List Char} (h : (c :: s).length ≤ t.length) :
    s.length ≤ t.length :=
  Nat.le_of_lt h

theorem Within.le_cons {s : List Char} (r : Within s) : r.1.length ≤ s.length + 1 :=
  Nat.le_succ_of_le r.2

theorem Within.lt_cons {s : List Char} (r : Within s) : r.1.length < s.length + 1 :=
  Nat.lt_succ_of_le r.2

-- Nothing has been taken off yet.
def Within.whole (s : List Char) : Within s := ⟨s, Nat.le_refl _⟩

variable {α β : Type}

-- A problem noticed once everything before `rest` has been read.
def failBefore (problem : Problem) (rest : List Char) : Except Fault α :=
  .error ⟨problem, byteLength rest⟩

-- A problem with the first byte of `rest`, which counts as read.
def failAt (problem : Problem) (rest : List Char) : Except Fault α :=
  .error ⟨problem, byteLength rest - 1⟩

def Shorter.weaken {s t : List Char} (h : t.length ≤ s.length) (r : Shorter t) : Shorter s :=
  ⟨r.1, Nat.lt_of_lt_of_le r.2 h⟩

def widen {s t : List Char} (h : t.length ≤ s.length) :
    Except Fault (α × Shorter t) → Except Fault (α × Shorter s)
  | .error e => .error e
  | .ok (a, r) => .ok (a, r.weaken h)

def Reader.map (f : α → β) (reader : Reader α) : Reader β := fun s =>
  match reader s with
  | .error e => .error e
  | .ok (a, r) => .ok (f a, r)

def isSpace (c : Char) : Bool :=
  c == ' ' || c == '\t' || c == '\n' || c == '\r'

def skipSpace (s : List Char) : Within s :=
  ⟨s.dropWhile isSpace, (List.dropWhile_suffix _).length_le⟩

def expectWord (word s : List Char) : Except Fault (Within s) :=
  match word, s with
  | [], s => .ok (.whole s)
  | _ :: _, [] => failBefore .eofValue []
  | w :: ws, c :: cs =>
      if c = w then
        match expectWord ws cs with
        | .error e => .error e
        | .ok r => .ok ⟨r.1, r.le_cons⟩
      else failAt .badLiteral (c :: cs)

end HostTelemetry.Json
