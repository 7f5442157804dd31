import HostTelemetry.Proofs.Sampler.Memory
import Mathlib.Data.Nat.Basic

namespace HostTelemetry.Counter

-- A sample of the counter that goes by some key.
structure EnergyCall where
  key : String
  count : Option Int
  range : Option Int
  deriving DecidableEq

-- What one more call makes of what was remembered of its key.
def Energy.after (before : Option Energy) (call : EnergyCall) : Option Energy :=
  call.count.map fun count => Energy.next before count call.range

-- The answers to the calls for one key, in a run of calls for any keys.
def EnergyMeter.answersTo (key : String) : EnergyMeter → List EnergyCall → List (Option Energy)
  | _, [] => []
  | meter, call :: rest =>
      let result := meter.measure call.key call.count call.range
      if call.key = key then result.1 :: answersTo key result.2 rest
      else answersTo key result.2 rest

-- Calls for other keys may stand anywhere between: what is remembered of a key is
-- the last answer that was given for it.
theorem EnergyMeter.answersTo_eq (key : String) (calls : List EnergyCall) (meter : EnergyMeter) :
    meter.answersTo key calls =
      ((calls.filter (·.key = key)).scanl Energy.after (meter.find? key)).tail := by
  induction calls generalizing meter with
  | nil => rfl
  | cons call rest ih =>
      obtain ⟨hanswer, hmeter⟩ :=
        Sampler.energy_measure_eq meter call.key call.count call.range
      simp only [answersTo]
      by_cases hkey : call.key = key
      · subst hkey
        rw [if_pos rfl, List.filter_cons_of_pos (by simp), List.scanl_cons, List.tail_cons, ih,
          hmeter, if_pos rfl, hanswer]
        cases rest.filter (·.key = call.key) with
        | nil => simp only [List.scanl_nil, List.tail_cons, Energy.after]
        | cons next later => simp only [List.scanl_cons, List.tail_cons, Energy.after]
      · rw [if_neg hkey, List.filter_cons_of_neg (by simpa using hkey), ih, hmeter, if_neg hkey]

section Following

variable {modulus first now later : Nat}

-- The counter shows what was consumed modulo its range. The finished rounds are
-- counted from the first sample on, and the range is known once it was told.
structure Energy.Follows (modulus first now : Nat) (told : Prop) (e : Energy) : Prop where
  count : e.count = (now % modulus : Nat)
  carried : e.carried = (modulus * (now / modulus) : Nat) - (modulus * (first / modulus) : Nat)
  range : told → e.range = some (modulus : Int)

theorem Energy.Follows.total_eq {told : Prop} {e : Energy}
    (h : e.Follows modulus first now told) :
    e.total = now - (modulus * (first / modulus) : Nat) := by
  have hnow := Nat.div_add_mod now modulus
  rw [Energy.total, h.count, h.carried]
  omega

-- Less than a whole range was consumed in between, so the counter fell exactly if
-- it went round once.
theorem div_of_rising (hle : now ≤ later) (hlt : later < now + modulus) :
    later / modulus = now / modulus + if later % modulus < now % modulus then 1 else 0 := by
  have hpos : 0 < modulus := by omega
  have hnow := Nat.div_add_mod now modulus
  have hlater := Nat.div_add_mod later modulus
  have hlow : now / modulus ≤ later / modulus := Nat.div_le_div_right hle
  have hhigh : later / modulus ≤ now / modulus + 1 := by
    rw [← Nat.add_div_right now hpos]
    exact Nat.div_le_div_right hlt.le
  have hround : modulus * (now / modulus + 1) = modulus * (now / modulus) + modulus :=
    Nat.mul_succ _ _
  rcases Nat.eq_or_lt_of_le hlow with heq | hgt
  · rw [← heq] at hlater ⊢
    rw [if_neg (by omega)]
    rfl
  · obtain heq : later / modulus = now / modulus + 1 := by omega
    rw [heq] at hlater ⊢
    rw [if_pos (by omega)]

theorem known_of_told (hpos : 0 < modulus) :
    Energy.known (some (modulus : Int)) = some (modulus : Int) := by
  simp [Energy.known, hpos]

theorem Energy.Follows.start (hpos : 0 < modulus) (supplied : Option Int) :
    (Energy.start (now % modulus : Nat) supplied).Follows modulus now now
      (supplied = some (modulus : Int)) where
  count := rfl
  carried := by simp [Energy.start]
  range htold := by rw [htold, Energy.start, known_of_told hpos]

-- What is told is told for good: a call without a range leaves it as it is.
theorem range_advance {told : Prop} {before : Energy} {supplied : Option Int}
    (h : before.Follows modulus first now told) (hpos : 0 < modulus) (count : Int)
    (hsupplied : Energy.known supplied = none ∨ supplied = some (modulus : Int))
    (htold : told ∨ supplied = some (modulus : Int)) :
    (before.advance count supplied).range = some (modulus : Int) := by
  rcases hsupplied with hnone | rfl
  · rcases htold with htold | rfl
    · rw [Energy.advance, hnone, Option.none_or, h.range htold]
    · rw [known_of_told hpos] at hnone
      cases hnone
  · rw [Energy.advance, known_of_told hpos, Option.some_or]

theorem Energy.Follows.advance {told : Prop} {before : Energy} {supplied : Option Int}
    (h : before.Follows modulus first now told) (hle : now ≤ later)
    (hlt : later < now + modulus)
    (hsupplied : Energy.known supplied = none ∨ supplied = some (modulus : Int))
    (htold : later % modulus < now % modulus → told ∨ supplied = some (modulus : Int)) :
    (before.advance (later % modulus : Nat) supplied).Follows modulus first later
      (told ∨ supplied = some (modulus : Int)) where
  count := rfl
  range := range_advance h (by omega) _ hsupplied
  carried := by
    have hmod : now % modulus ≤ modulus := (Nat.mod_lt _ (by omega)).le
    have hround : modulus * (now / modulus + 1) = modulus * (now / modulus) + modulus :=
      Nat.mul_succ _ _
    rw [div_of_rising hle hlt, Energy.advance]
    by_cases hfell : later % modulus < now % modulus
    · have hrange : (Energy.known supplied).or before.range = some (modulus : Int) :=
        range_advance h (by omega) 0 hsupplied (htold hfell)
      rw [if_pos hfell, hrange, Energy.carry.eq_def, h.count, if_pos (by exact_mod_cast hfell),
        h.carried]
      dsimp only
      rw [if_pos (by exact_mod_cast hmod)]
      omega
    · rw [if_neg hfell, Energy.carry.eq_def, h.count, if_neg (by exact_mod_cast hfell),
        h.carried, Nat.add_zero]

end Following

section Reports

variable {modulus n : Nat} {consumed : Nat → Nat} {supplied : Nat → Option Int}

-- The first `n` calls for a key whose counter shows what was consumed modulo its
-- range.
def reports (key : String) (modulus : Nat) (consumed : Nat → Nat)
    (supplied : Nat → Option Int) (n : Nat) : List EnergyCall :=
  (List.range n).map fun i => ⟨key, some (consumed i % modulus : Nat), supplied i⟩

-- The counter is read at least once a round, no other range is ever supplied for it,
-- and its own at the latest when it is first seen to fall.
structure Credible (modulus : Nat) (consumed : Nat → Nat) (supplied : Nat → Option Int)
    (n : Nat) : Prop where
  rising : ∀ i, i + 1 < n → consumed i ≤ consumed (i + 1) ∧ consumed (i + 1) < consumed i + modulus
  only : ∀ i < n, Energy.known (supplied i) = none ∨ supplied i = some (modulus : Int)
  told : ∀ i, i + 1 < n → consumed (i + 1) % modulus < consumed i % modulus →
    ∃ j ≤ i + 1, supplied j = some (modulus : Int)

theorem Credible.init (h : Credible modulus consumed supplied (n + 1)) :
    Credible modulus consumed supplied n where
  rising i hi := h.rising i (Nat.lt_succ_of_lt hi)
  only i hi := h.only i (Nat.lt_succ_of_lt hi)
  told i hi := h.told i (Nat.lt_succ_of_lt hi)

theorem reports_succ (key : String) (n : Nat) :
    reports key modulus consumed supplied (n + 1) =
      reports key modulus consumed supplied n ++
        [⟨key, some (consumed n % modulus : Nat), supplied n⟩] := by
  rw [reports, reports, List.range_succ, List.map_append, List.map_singleton]

-- The induction is on the calls for the key; those before the last one have told the
-- range if any of them did.
theorem follows_reports (hpos : 0 < modulus) (key : String)
    (h : Credible modulus consumed supplied (n + 1)) :
    ∃ e, (reports key modulus consumed supplied (n + 1)).foldl Energy.after none = some e ∧
      e.Follows modulus (consumed 0) (consumed n) (∃ j ≤ n, supplied j = some (modulus : Int)) := by
  induction n with
  | zero =>
      refine ⟨_, rfl, ?_⟩
      have hstart : (Energy.start (consumed 0 % modulus : Nat) (supplied 0)).Follows modulus
          (consumed 0) (consumed 0) (supplied 0 = some (modulus : Int)) := .start hpos _
      refine ⟨hstart.count, hstart.carried, ?_⟩
      rintro ⟨j, hj, htold⟩
      exact hstart.range (Nat.le_zero.mp hj ▸ htold)
  | succ n ih =>
      obtain ⟨e, he, hfollows⟩ := ih h.init
      obtain ⟨hle, hlt⟩ := h.rising n (Nat.lt_succ_self _)
      have hsplit : (∃ j ≤ n + 1, supplied j = some (modulus : Int)) →
          (∃ j ≤ n, supplied j = some (modulus : Int)) ∨
            supplied (n + 1) = some (modulus : Int) := by
        rintro ⟨j, hj, htold⟩
        rcases Nat.le_succ_iff.mp hj with hj | rfl
        · exact .inl ⟨j, hj, htold⟩
        · exact .inr htold
      have hnext := hfollows.advance hle hlt (h.only (n + 1) (Nat.lt_succ_self _))
        fun hfell => hsplit (h.told n (Nat.lt_succ_self _) hfell)
      rw [reports_succ, List.foldl_append, he]
      exact ⟨_, rfl, hnext.count, hnext.carried, fun htold => hnext.range (hsplit htold)⟩

-- A meter tells exactly what was consumed since the start of the round in which it
-- first saw the key, however often the counter went round and whichever other keys
-- were measured in between.
theorem totals_follow (hpos : 0 < modulus) (h : Credible modulus consumed supplied n)
    {key : String} {meter : EnergyMeter} (hnew : meter.find? key = none)
    {calls : List EnergyCall}
    (hcalls : calls.filter (·.key = key) = reports key modulus consumed supplied n) :
    (meter.answersTo key calls).map (·.map Energy.total) =
      (List.range n).map fun i =>
        some ((consumed i : Int) - (modulus * (consumed 0 / modulus) : Nat)) := by
  rw [EnergyMeter.answersTo_eq, hnew, hcalls]
  clear hcalls
  induction n with
  | zero => rfl
  | succ n ih =>
      obtain ⟨e, he, hfollows⟩ := follows_reports hpos key h
      rw [reports_succ, List.foldl_append, List.foldl_cons, List.foldl_nil] at he
      rw [reports_succ, List.scanl_append, List.tail_append_of_ne_nil List.scanl_ne_nil,
        List.map_append, ih h.init, List.range_succ, List.map_append, List.scanl_cons,
        List.scanl_nil, List.tail_cons, List.map_singleton, List.map_singleton, he,
        Option.map_some, hfollows.total_eq]

-- A counter of 1000 that comes to rest on 0, measured beside one that is lost and found
-- again. Its range is supplied when it falls first and is 0 otherwise.
def roundTrips : List EnergyCall :=
  [⟨"web", some 900, some 0⟩, ⟨"db", some 7, some 10⟩, ⟨"web", some 5, some 1000⟩, ⟨"db", none, none⟩,
   ⟨"web", some 999, none⟩, ⟨"db", some 3, none⟩, ⟨"web", some 0, some 0⟩]

def roundTripsConsumed (i : Nat) : Nat := [2900, 3005, 3999, 4000].getD i 0

def roundTripsSupplied (i : Nat) : Option Int := [some 0, some 1000, none, some 0].getD i none

theorem credible_roundTrips : Credible 1000 roundTripsConsumed roundTripsSupplied 4 where
  rising i hi := (by decide : ∀ i < 3, roundTripsConsumed i ≤ roundTripsConsumed (i + 1) ∧
    roundTripsConsumed (i + 1) < roundTripsConsumed i + 1000) i (by omega)
  only := by decide
  told i hi hfell := (by decide : ∀ i < 3,
    roundTripsConsumed (i + 1) % 1000 < roundTripsConsumed i % 1000 →
      ∃ j ≤ i + 1, roundTripsSupplied j = some ((1000 : Nat) : Int)) i (by omega) hfell

theorem totals_follow_roundTrips :
    Credible 1000 roundTripsConsumed roundTripsSupplied 4 ∧
    roundTrips.filter (·.key = "web") = reports "web" 1000 roundTripsConsumed roundTripsSupplied 4 ∧
    (EnergyMeter.answersTo "web" [] roundTrips).map (·.map Energy.total) =
      [some 900, some 1005, some 1999, some 2000] := by
  have hcalls : roundTrips.filter (·.key = "web") =
      reports "web" 1000 roundTripsConsumed roundTripsSupplied 4 := by decide
  exact ⟨credible_roundTrips, hcalls,
    totals_follow (by decide) credible_roundTrips rfl hcalls⟩

end Reports

end HostTelemetry.Counter
