import HostTelemetry.Counter.Rate
import HostTelemetry.Proofs.Keyed
import Mathlib.Algebra.BigOperators.Ring.Finset
import Mathlib.Algebra.Order.Field.Rat
import Mathlib.Data.List.Induction
import Mathlib.Tactic.NormNum

namespace HostTelemetry.Counter

open Finset (range)

instance : Quantity ℚ where
  ofInt n := n
  sub := (· - ·)
  div := (· / ·)
  atLeast := max
  zero := 0
  leastElapsed := 1 / 10 ^ 6

-- One of the two counters that are measured together.
inductive Side where
  | first
  | second

namespace Side

def count : Side → Baseline ℚ → Int
  | first, b => b.first
  | second, b => b.second

def rate : Side → ℚ × ℚ → ℚ
  | first, rates => rates.1
  | second, rates => rates.2

end Side

-- Counts that were read under some key.
structure RateCall where
  key : String
  counts : Baseline ℚ

namespace RateMeter

-- A new meter after some calls.
def after (calls : List RateCall) : RateMeter ℚ :=
  calls.foldl (fun meter call => (meter.measure call.key call.counts).2) []

-- What it answers to one more call.
def answer (calls : List RateCall) (call : RateCall) : ℚ × ℚ :=
  ((after calls).measure call.key call.counts).1

-- The answers to the calls for one key, in a run of calls for any keys.
def answersTo (key : String) : RateMeter ℚ → List RateCall → List (ℚ × ℚ)
  | _, [] => []
  | meter, call :: rest =>
      let result := meter.measure call.key call.counts
      if call.key = key then result.1 :: answersTo key result.2 rest
      else answersTo key result.2 rest

end RateMeter

def latest (key : String) (calls : List RateCall) : Option (Baseline ℚ) :=
  (calls.filter (·.key = key)).getLast?.map (·.counts)

theorem latest_concat (key : String) (calls : List RateCall) (call : RateCall) :
    latest key (calls ++ [call]) = if call.key = key then some call.counts else latest key calls := by
  by_cases h : call.key = key
  · simp [latest, h]
  · simp [latest, h]

-- Only the latest counts of a key are kept, also when a counter fell.
theorem after_find? (key : String) (calls : List RateCall) :
    (RateMeter.after calls).find? key = latest key calls := by
  induction calls using List.reverseRecOn with
  | nil => rfl
  | append_singleton calls call ih =>
      rw [latest_concat, ← ih, RateMeter.after, List.foldl_append]
      exact Keyed.find?_insert call.key key call.counts _

theorem answersTo_eq (key : String) (calls : List RateCall) (meter : RateMeter ℚ) :
    meter.answersTo key calls =
      let mine := (calls.filter (·.key = key)).map (·.counts)
      (meter.find? key :: mine.map some).zipWith ratesSince mine := by
  induction calls generalizing meter with
  | nil => rfl
  | cons call rest ih =>
      simp only [RateMeter.answersTo, RateMeter.measure, ih, Keyed.find?_insert]
      by_cases h : call.key = key
      · subst h
        simp
      · simp [h]

section Rate

variable {before now : Baseline ℚ}

theorem side_rates (side : Side) (before now : Baseline ℚ) :
    side.rate (before.rates now) =
      max 0 (((side.count now : ℚ) - side.count before) /
        max (1 / 10 ^ 6) (now.time - before.time)) := by
  cases side with
  | first => rfl
  | second => rfl

theorem side_ratesSince (side : Side) (before : Option (Baseline ℚ)) (now : Baseline ℚ) :
    side.rate (ratesSince before now) =
      before.elim 0 fun before => max 0 (((side.count now : ℚ) - side.count before) /
        max (1 / 10 ^ 6) (now.time - before.time)) := by
  cases before with
  | none => cases side <;> rfl
  | some before => exact side_rates side before now

theorem side_ratesSince_nonneg (side : Side) (before : Option (Baseline ℚ)) (now : Baseline ℚ) :
    0 ≤ side.rate (ratesSince before now) := by
  rw [side_ratesSince]
  cases before with
  | none => exact le_rfl
  | some before => exact le_max_left _ _

-- Over the time that it stands for, a rate gives back what the counter gained.
theorem rate_mul_elapsed (side : Side) (h : 1 / 10 ^ 6 ≤ now.time - before.time) :
    side.rate (before.rates now) * (now.time - before.time) =
      ((max 0 (side.count now - side.count before) : Int) : ℚ) := by
  have hpos : 0 < now.time - before.time := lt_of_lt_of_le (by norm_num) h
  rw [side_rates, max_eq_right h, max_mul_of_nonneg _ _ hpos.le, zero_mul,
    div_mul_cancel₀ _ hpos.ne', Int.cast_max, Int.cast_zero, Int.cast_sub]

end Rate

section Run

variable {counts : Nat → Baseline ℚ}

-- The answers to successive counts of one key.
def ratesAt (counts : Nat → Baseline ℚ) : Nat → ℚ × ℚ
  | 0 => ratesSince none (counts 0)
  | i + 1 => ratesSince (some (counts i)) (counts (i + 1))

theorem zipWith_ratesSince (n : Nat) :
    (none :: ((List.range n).map counts).map some).zipWith ratesSince ((List.range n).map counts) =
      (List.range n).map (ratesAt counts) := by
  apply List.ext_getElem
  · simp
  · intro i _ _
    cases i with
    | zero => simp [ratesAt]
    | succ i => simp [ratesAt]

theorem answersTo_of_calls {key : String} {calls : List RateCall} {n : Nat}
    (h : calls.filter (·.key = key) = (List.range n).map fun i => ⟨key, counts i⟩) :
    RateMeter.answersTo key [] calls = (List.range n).map (ratesAt counts) := by
  have hmine : (calls.filter (·.key = key)).map (·.counts) = (List.range n).map counts := by
    rw [h, List.map_map]
    rfl
  rw [answersTo_eq, hmine]
  exact zipWith_ratesSince n

theorem sum_rate_mul_elapsed (side : Side) {n : Nat}
    (hapart : ∀ i < n, 1 / 10 ^ 6 ≤ (counts (i + 1)).time - (counts i).time) :
    ∑ i ∈ range n, side.rate (ratesAt counts (i + 1)) *
        ((counts (i + 1)).time - (counts i).time) =
      ((∑ i ∈ range n, max 0 (side.count (counts (i + 1)) - side.count (counts i)) : Int) : ℚ) := by
  rw [Int.cast_sum]
  apply Finset.sum_congr rfl
  intro i hi
  exact rate_mul_elapsed side (hapart i (Finset.mem_range.mp hi))

-- The increases of a counter that never falls telescope.
theorem sum_increases (side : Side) {n : Nat}
    (hrising : ∀ i < n, side.count (counts i) ≤ side.count (counts (i + 1))) :
    ∑ i ∈ range n, max 0 (side.count (counts (i + 1)) - side.count (counts i)) =
      side.count (counts n) - side.count (counts 0) := by
  rw [← Finset.sum_range_sub fun i => side.count (counts i)]
  apply Finset.sum_congr rfl
  intro i hi
  have hle := hrising i (Finset.mem_range.mp hi)
  exact max_eq_right (by omega)

end Run

-- In exact arithmetic a rate is what its own counter gained since the latest call for its
-- key, and over all calls for a key the rates account for every increase.
theorem rates_account (calls : List RateCall) :
    (∀ (call : RateCall) (side : Side),
      side.rate (RateMeter.answer calls call) =
        ((latest call.key calls).elim 0 fun before =>
          max 0 (((side.count call.counts : ℚ) - side.count before) /
            max (1 / 10 ^ 6) (call.counts.time - before.time))) ∧
      0 ≤ side.rate (RateMeter.answer calls call)) ∧
    ∀ (key : String) (counts : Nat → Baseline ℚ) (n : Nat),
      calls.filter (·.key = key) = (List.range (n + 1)).map (fun i => ⟨key, counts i⟩) →
      (∀ i < n, 1 / 10 ^ 6 ≤ (counts (i + 1)).time - (counts i).time) →
      ∃ rates : Nat → ℚ × ℚ,
        RateMeter.answersTo key [] calls = (List.range (n + 1)).map rates ∧
        ∀ side : Side,
          let accounted := ∑ i ∈ range n,
            side.rate (rates (i + 1)) * ((counts (i + 1)).time - (counts i).time)
          accounted = ((∑ i ∈ range n,
            max 0 (side.count (counts (i + 1)) - side.count (counts i)) : Int) : ℚ) ∧
          ((∀ i < n, side.count (counts i) ≤ side.count (counts (i + 1))) →
            accounted = ((side.count (counts n) - side.count (counts 0) : Int) : ℚ)) := by
  constructor
  · intro call side
    rw [RateMeter.answer, RateMeter.measure, after_find?]
    exact ⟨side_ratesSince side _ _, side_ratesSince_nonneg side _ _⟩
  · intro key counts n hcalls hapart
    refine ⟨ratesAt counts, answersTo_of_calls hcalls, fun side => ?_⟩
    have hsum := sum_rate_mul_elapsed side hapart
    refine ⟨hsum, fun hrising => ?_⟩
    rw [hsum, sum_increases side hrising]

-- One counter is reset while the other grows, beside a key whose clock goes backward.
def resetCalls : List RateCall :=
  [⟨"web", ⟨100, 10, 0⟩⟩, ⟨"db", ⟨7, 7, 5⟩⟩, ⟨"web", ⟨300, 10, 2⟩⟩, ⟨"db", ⟨9, 3, 4⟩⟩,
   ⟨"web", ⟨50, 60, 5 / 2⟩⟩, ⟨"web", ⟨1050, 1060, 25 / 2⟩⟩]

def resetCounts (i : Nat) : Baseline ℚ :=
  [⟨100, 10, 0⟩, ⟨300, 10, 2⟩, ⟨50, 60, 5 / 2⟩, ⟨1050, 1060, 25 / 2⟩].getD i ⟨0, 0, 0⟩

theorem resetCounts_apart :
    ∀ i < 3, 1 / 10 ^ 6 ≤ (resetCounts (i + 1)).time - (resetCounts i).time := by
  intro i hi
  obtain rfl | rfl | rfl : i = 0 ∨ i = 1 ∨ i = 2 := by omega
  all_goals norm_num [resetCounts]

theorem rates_account_reset :
    ∃ rates : Nat → ℚ × ℚ,
      RateMeter.answersTo "web" [] resetCalls = (List.range 4).map rates ∧
      ∑ i ∈ range 3, (rates (i + 1)).1 *
        ((resetCounts (i + 1)).time - (resetCounts i).time) = 1200 ∧
      ∑ i ∈ range 3, (rates (i + 1)).2 *
        ((resetCounts (i + 1)).time - (resetCounts i).time) = 1060 - 10 := by
  obtain ⟨rates, hanswers, haccount⟩ :=
    (rates_account resetCalls).2 "web" resetCounts 3 rfl resetCounts_apart
  have hgains : ∑ i ∈ range 3, max 0 (Side.first.count (resetCounts (i + 1)) -
      Side.first.count (resetCounts i)) = 1200 := by decide
  refine ⟨rates, hanswers, ?_, ?_⟩
  · have hfirst := (haccount .first).1
    rw [hgains] at hfirst
    exact hfirst
  · have hsecond := (haccount .second).2 (by decide)
    exact hsecond.trans (by norm_num [Side.count, resetCounts])

end HostTelemetry.Counter
