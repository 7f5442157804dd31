namespace HostTelemetry

-- Entries by name, kept in ascending order of the name. Code point order and
-- the order of the UTF-8 bytes agree, so this is the order of every listing.
abbrev Keyed (α : Type) := List (String × α)

namespace Keyed

variable {α β : Type}

def insert (key : String) (value : α) : Keyed α → Keyed α
  | [] => [(key, value)]
  | (k, v) :: rest =>
      if key < k then (key, value) :: (k, v) :: rest
      else if key = k then (key, value) :: rest
      else (k, v) :: insert key value rest

def find? (key : String) : Keyed α → Option α
  | [] => none
  | (k, v) :: rest => if k = key then some v else find? key rest

def erase (key : String) (entries : Keyed α) : Keyed α :=
  entries.filter fun entry => entry.1 ≠ key

-- A later entry replaces an earlier one of the same name.
def ofList (entries : List (String × α)) : Keyed α :=
  entries.foldl (fun acc entry => acc.insert entry.1 entry.2) []

def without (names : List String) (entries : Keyed α) : Keyed α :=
  entries.filter fun entry => entry.1 ∉ names

def keys (entries : Keyed α) : List String :=
  entries.map Prod.fst

def Ascending (entries : Keyed α) : Prop :=
  entries.Pairwise fun a b => a.1 < b.1

@[simp] theorem find?_nil (key : String) : find? key ([] : Keyed α) = none := rfl

theorem find?_insert (key name : String) (value : α) (entries : Keyed α) :
    (entries.insert key value).find? name =
      if key = name then some value else entries.find? name := by
  induction entries with
  | nil => simp [insert, find?]
  | cons entry rest ih =>
      obtain ⟨k, v⟩ := entry
      simp only [insert]
      split
      · simp [find?]
      · split
        · next hk => subst hk; by_cases h : key = name <;> simp [find?, h]
        · next hk =>
            by_cases h : k = name
            · subst h; simp [find?, hk]
            · simp [find?, h, ih]

end Keyed

end HostTelemetry
