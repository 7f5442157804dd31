import HostTelemetry.Proofs.Counter.Energy
import HostTelemetry.Proofs.Json.Fits
import Mathlib.Data.Int.ConditionallyCompleteOrder
import Mathlib.Data.Nat.SuccPred

namespace HostTelemetry.Counter

-- What a reading may do to the carry: a counter that did not fall leaves it, one
-- that fell within the range ended a round, and any other fall drops it.
theorem Energy.carry_cases (before : Energy) (count : Int) (range : Option Int) :
    (before.count ≤ count ∧ before.carry count range = before.carried) ∨
    (count < before.count ∧ ∃ round, range = some round ∧ before.count ≤ round ∧
      before.carry count range = before.carried + round) ∨
    (count < before.count ∧ (∀ round, range = some round → round < before.count) ∧
      before.carry count range = 0) := by
  by_cases hfell : count < before.count
  · refine .inr ?_
    cases range with
    | none =>
        refine .inr ⟨hfell, ?_, by rw [carry.eq_def, if_pos hfell]⟩
        rintro _ ⟨⟩
    | some round =>
        by_cases hround : before.count ≤ round
        · exact .inl ⟨hfell, round, rfl, hround, by simp [carry.eq_def, hfell, hround]⟩
        · refine .inr ⟨hfell, ?_, by simp [carry.eq_def, hfell, hround]⟩
          rintro _ ⟨⟩
          exact not_le.mp hround
  · exact .inl ⟨not_lt.mp hfell, by rw [carry.eq_def, if_neg hfell]⟩

section Step

variable {before : Energy} {count : Int} {supplied : Option Int}

-- A round is at least as long as the counter was before it fell, so what the fall
-- takes away is made up for.
theorem Energy.total_le_advance (hcount : 0 ≤ count)
    (hround : count < before.count →
      ∃ round, (before.advance count supplied).range = some round ∧ before.count ≤ round) :
    before.total ≤ (before.advance count supplied).total := by
  have htotal : (before.advance count supplied).total =
      before.carry count (before.advance count supplied).range + count := rfl
  rw [htotal, total]
  rcases before.carry_cases count (before.advance count supplied).range with
    ⟨hrose, hcarry⟩ | ⟨-, round, -, hlong, hcarry⟩ | ⟨hfell, hshort, -⟩
  · omega
  · omega
  · obtain ⟨round, hrange, hlong⟩ := hround hfell
    have := hshort round hrange
    omega

theorem Energy.total_advance_of_reset (hfell : count < before.count)
    (hshort : ∀ round, (before.advance count supplied).range = some round →
      round < before.count) :
    (before.advance count supplied).total = count := by
  have htotal : (before.advance count supplied).total =
      before.carry count (before.advance count supplied).range + count := rfl
  rw [htotal]
  rcases before.carry_cases count (before.advance count supplied).range with
    ⟨hrose, -⟩ | ⟨-, round, hrange, hlong, -⟩ | ⟨-, -, hcarry⟩
  · omega
  · have := hshort round hrange
    omega
  · omega

end Step

section Stretch

variable {key : String} {count : Nat → Int} {supplied : Nat → Option Int}

-- The first `n` of some calls for a key that all carry its counter.
def samples (key : String) (count : Nat → Int) (supplied : Nat → Option Int) (n : Nat) :
    List EnergyCall :=
  (List.range n).map fun i => ⟨key, some (count i), supplied i⟩

-- The calls for the key end in `n` samples, and the first of them found it unknown:
-- no call for the key came before, or one that forgot it.
structure Stretch (key : String) (calls earlier : List EnergyCall) (count : Nat → Int)
    (supplied : Nat → Option Int) (n : Nat) : Prop where
  calls : calls.filter (·.key = key) = earlier ++ samples key count supplied n
  forgotten : ∀ last ∈ earlier.getLast?, last.count = none

-- The latest positive range among the samples up to the given one.
def Latest (supplied : Nat → Option Int) (i : Nat) (range : Int) : Prop :=
  0 < range ∧ ∃ j ≤ i, supplied j = some range ∧
    ∀ k, j < k → k ≤ i → ∀ later ∈ supplied k, later ≤ 0

-- The counter fell after the given sample, by no more than a round of the latest
-- range takes away.
def Explained (count : Nat → Int) (supplied : Nat → Option Int) (i : Nat) : Prop :=
  ∃ range, Latest supplied (i + 1) range ∧ count i ≤ range

-- What is remembered after each sample of a stretch.
def energyAt (count : Nat → Int) (supplied : Nat → Option Int) : Nat → Energy
  | 0 => Energy.start (count 0) (supplied 0)
  | i + 1 => (energyAt count supplied i).advance (count (i + 1)) (supplied (i + 1))

theorem energyAt_count (i : Nat) : (energyAt count supplied i).count = count i := by
  cases i with
  | zero => rfl
  | succ i => rfl

theorem known_eq_some_iff {range : Option Int} {round : Int} :
    Energy.known range = some round ↔ range = some round ∧ 0 < round := by
  simp [Energy.known, Option.filter_eq_some_iff]

theorem known_eq_none_iff {range : Option Int} :
    Energy.known range = none ↔ ∀ round ∈ range, round ≤ 0 := by
  simp [Energy.known, Option.filter_eq_none_iff]

theorem latest_succ_of_known {i : Nat} {round : Int}
    (h : Energy.known (supplied (i + 1)) = some round) (range : Int) :
    Latest supplied (i + 1) range ↔ range = round := by
  obtain ⟨hround, hpos⟩ := known_eq_some_iff.mp h
  constructor
  · rintro ⟨-, j, hj, hrange, hsilent⟩
    rcases Nat.lt_or_eq_of_le hj with hlt | rfl
    · have := hsilent (i + 1) hlt le_rfl round hround
      omega
    · exact Option.some.inj (hrange.symm.trans hround)
  · rintro rfl
    exact ⟨hpos, i + 1, le_rfl, hround, fun k hlt hle => by omega⟩

theorem latest_succ_of_silent {i : Nat} (h : Energy.known (supplied (i + 1)) = none)
    (range : Int) : Latest supplied (i + 1) range ↔ Latest supplied i range := by
  have hsilent := known_eq_none_iff.mp h
  constructor
  · rintro ⟨hpos, j, hj, hrange, hlater⟩
    have hne : j ≠ i + 1 := by
      rintro rfl
      have := hsilent range hrange
      omega
    exact ⟨hpos, j, by omega, hrange, fun k hlt hle => hlater k hlt (by omega)⟩
  · rintro ⟨hpos, j, hj, hrange, hlater⟩
    refine ⟨hpos, j, by omega, hrange, fun k hlt hle => ?_⟩
    rcases Nat.lt_or_eq_of_le hle with hk | rfl
    · exact hlater k hlt (by omega)
    · exact hsilent

theorem energyAt_range_iff (i : Nat) (range : Int) :
    (energyAt count supplied i).range = some range ↔ Latest supplied i range := by
  induction i with
  | zero =>
      have hstart : (energyAt count supplied 0).range = Energy.known (supplied 0) := rfl
      rw [hstart, known_eq_some_iff]
      constructor
      · rintro ⟨hrange, hpos⟩
        exact ⟨hpos, 0, le_rfl, hrange, fun k hlt hle => by omega⟩
      · rintro ⟨hpos, j, hj, hrange, -⟩
        obtain rfl := Nat.le_zero.mp hj
        exact ⟨hrange, hpos⟩
  | succ i ih =>
      have hadvance : (energyAt count supplied (i + 1)).range =
          (Energy.known (supplied (i + 1))).or (energyAt count supplied i).range := rfl
      rw [hadvance]
      cases hknown : Energy.known (supplied (i + 1)) with
      | none => rw [Option.none_or, ih, latest_succ_of_silent hknown]
      | some round =>
          rw [Option.some_or, latest_succ_of_known hknown, Option.some_inj, eq_comm]

theorem energyAt_total_le {i : Nat} (hcount : 0 ≤ count (i + 1))
    (h : count (i + 1) < count i → Explained count supplied i) :
    (energyAt count supplied i).total ≤ (energyAt count supplied (i + 1)).total := by
  apply Energy.total_le_advance hcount
  intro hfell
  rw [energyAt_count] at hfell ⊢
  obtain ⟨range, hlatest, hle⟩ := h hfell
  exact ⟨range, (energyAt_range_iff (i + 1) range).mpr hlatest, hle⟩

theorem energyAt_total_of_reset {i : Nat} (hfell : count (i + 1) < count i)
    (h : ¬Explained count supplied i) :
    (energyAt count supplied (i + 1)).total = count (i + 1) := by
  apply Energy.total_advance_of_reset
  · rwa [energyAt_count]
  · intro range hrange
    rw [energyAt_count]
    by_contra hle
    exact h ⟨range, (energyAt_range_iff (i + 1) range).mp hrange, not_lt.mp hle⟩

theorem samples_succ (n : Nat) :
    samples key count supplied (n + 1) =
      samples key count supplied n ++ [⟨key, some (count n), supplied n⟩] := by
  rw [samples, samples, List.range_succ, List.map_append, List.map_singleton]

theorem foldl_samples (key : String) (count : Nat → Int) (supplied : Nat → Option Int) (n : Nat) :
    (samples key count supplied (n + 1)).foldl Energy.after none =
      some (energyAt count supplied n) := by
  induction n with
  | zero => rfl
  | succ n ih => rw [samples_succ, List.foldl_append, ih]; rfl

theorem scanl_samples (n : Nat) :
    ((samples key count supplied n).scanl Energy.after none).tail =
      (List.range n).map fun i => some (energyAt count supplied i) := by
  induction n with
  | zero => rfl
  | succ n ih =>
      have hlast := foldl_samples key count supplied n
      rw [samples_succ, List.foldl_append, List.foldl_cons, List.foldl_nil] at hlast
      rw [samples_succ, List.scanl_append, List.tail_append_of_ne_nil List.scanl_ne_nil, ih,
        List.scanl_cons, List.scanl_nil, List.tail_cons, hlast, List.range_succ,
        List.map_append, List.map_singleton]

theorem foldl_of_forgotten {earlier : List EnergyCall}
    (h : ∀ last ∈ earlier.getLast?, last.count = none) :
    earlier.foldl Energy.after none = none := by
  induction earlier using List.reverseRecOn with
  | nil => rfl
  | append_singleton earlier last _ =>
      have hnone : last.count = none := h last (by simp)
      rw [List.foldl_append, List.foldl_cons, List.foldl_nil, Energy.after, hnone,
        Option.map_none]

-- Whatever the meter was told before, the answers of a stretch are those of a meter
-- that starts with it.
theorem Stretch.answers {calls earlier : List EnergyCall} {n : Nat}
    (h : Stretch key calls earlier count supplied n) :
    (EnergyMeter.answersTo key [] calls).drop earlier.length =
      (List.range n).map fun i => some (energyAt count supplied i) := by
  rw [EnergyMeter.answersTo_eq, h.calls, Keyed.find?_nil, List.scanl_append,
    foldl_of_forgotten h.forgotten, List.tail_append_of_ne_nil List.scanl_ne_nil, scanl_samples]
  exact List.drop_left' (by simp)

end Stretch

section Capacity

-- What the sums are kept in: signed integers of 128 bits.
def FitsWide (n : Int) : Prop :=
  -(2 ^ 127) ≤ n ∧ n < 2 ^ 127

-- Counters and ranges come as signed integers of 64 bits.
structure EnergyCall.InWords (call : EnergyCall) : Prop where
  count : ∀ count ∈ call.count, inIntRange count = true
  range : ∀ range ∈ call.range, inIntRange range = true

-- A call adds one round at most, so `calls` of them add no more than that many.
structure Energy.Within (calls : Nat) (e : Energy) : Prop where
  carried_nonneg : 0 ≤ e.carried
  carried_le : e.carried ≤ calls * (2 ^ 63 - 1)
  count : -(2 ^ 63) ≤ e.count ∧ e.count ≤ 2 ^ 63 - 1
  range : ∀ round ∈ e.range, 0 < round ∧ round ≤ 2 ^ 63 - 1

-- A new meter after some calls.
def EnergyMeter.after (calls : List EnergyCall) : EnergyMeter :=
  calls.foldl (fun meter call => (meter.measure call.key call.count call.range).2) []

variable {calls : Nat} {before e : Energy} {count round : Int} {supplied : Option Int}

theorem word_bounds (h : inIntRange count = true) : -(2 ^ 63) ≤ count ∧ count ≤ 2 ^ 63 - 1 :=
  inIntRange_iff.mp h

theorem known_bounds (h : ∀ round ∈ supplied, inIntRange round = true) :
    ∀ round ∈ Energy.known supplied, 0 < round ∧ round ≤ 2 ^ 63 - 1 := by
  intro round hround
  obtain ⟨hmem, hpos⟩ := known_eq_some_iff.mp hround
  exact ⟨hpos, (word_bounds (h round hmem)).2⟩

theorem Energy.Within.start (hcount : inIntRange count = true)
    (hsupplied : ∀ round ∈ supplied, inIntRange round = true) :
    (Energy.start count supplied).Within (calls + 1) where
  carried_nonneg := le_rfl
  carried_le := by
    change (0 : Int) ≤ _
    omega
  count := word_bounds hcount
  range := known_bounds hsupplied

theorem Energy.Within.advance_range (h : before.Within calls) (count : Int)
    (hsupplied : ∀ round ∈ supplied, inIntRange round = true) :
    ∀ round ∈ (before.advance count supplied).range, 0 < round ∧ round ≤ 2 ^ 63 - 1 := by
  intro round hround
  rcases Option.or_eq_some_iff.mp hround with hknown | ⟨-, hbefore⟩
  · exact known_bounds hsupplied round hknown
  · exact h.range round hbefore

theorem Energy.Within.advance (h : before.Within calls) (hcount : inIntRange count = true)
    (hsupplied : ∀ round ∈ supplied, inIntRange round = true) :
    (before.advance count supplied).Within (calls + 1) := by
  have hrange := h.advance_range count hsupplied
  have hcarried : (before.advance count supplied).carried =
      before.carry count (before.advance count supplied).range := rfl
  have hnonneg := h.carried_nonneg
  have hle := h.carried_le
  refine ⟨?_, ?_, word_bounds hcount, hrange⟩
  all_goals
    rw [hcarried]
    rcases before.carry_cases count (before.advance count supplied).range with
      ⟨-, hcarry⟩ | ⟨-, round, hround, -, hcarry⟩ | ⟨-, -, hcarry⟩
    · omega
    · have := hrange round hround
      omega
    · omega

theorem Energy.Within.next {before : Option Energy} (h : ∀ b ∈ before, b.Within calls)
    (hcount : inIntRange count = true)
    (hsupplied : ∀ round ∈ supplied, inIntRange round = true) :
    (Energy.next before count supplied).Within (calls + 1) := by
  cases before with
  | none => exact .start hcount hsupplied
  | some before => exact (h before rfl).advance hcount hsupplied

theorem Energy.Within.succ (h : e.Within calls) : e.Within (calls + 1) :=
  ⟨h.carried_nonneg, by have := h.carried_le; omega, h.count, h.range⟩

theorem EnergyMeter.after_concat (calls : List EnergyCall) (call : EnergyCall) :
    EnergyMeter.after (calls ++ [call]) =
      ((EnergyMeter.after calls).measure call.key call.count call.range).2 := by
  rw [after, List.foldl_append]
  rfl

theorem EnergyMeter.after_within {calls : List EnergyCall} (h : ∀ call ∈ calls, call.InWords)
    (key : String) : ∀ e ∈ (EnergyMeter.after calls).find? key, e.Within calls.length := by
  induction calls using List.reverseRecOn with
  | nil => intro e he; cases he
  | append_singleton calls call ih =>
      obtain ⟨hcalls, hcall⟩ := List.forall_mem_append.mp h
      obtain ⟨hcount, hsupplied⟩ := List.forall_mem_singleton.mp hcall
      intro e he
      rw [after_concat, (Sampler.energy_measure_eq _ _ _ _).2] at he
      rw [List.length_append, List.length_singleton]
      split at he
      · next hkey =>
          obtain ⟨count, hmem, rfl⟩ := Option.map_eq_some_iff.mp he
          exact .next (hkey ▸ ih hcalls) (hcount count hmem) hsupplied
      · exact (ih hcalls e he).succ

-- The sums of one call stay far from the ends of their integers, since a run of fewer
-- than `2 ^ 63` calls cannot add more than that many rounds.
theorem sums_fit {calls past later : List EnergyCall} {call : EnergyCall}
    (hwords : ∀ call ∈ calls, call.InWords) (hfew : calls.length < 2 ^ 63)
    (hcalls : calls = past ++ call :: later) :
    (∀ before ∈ (EnergyMeter.after past).find? call.key,
      ∀ round ∈ (Energy.known call.range).or before.range, FitsWide (before.carried + round)) ∧
    ∀ e ∈ ((EnergyMeter.after past).measure call.key call.count call.range).1,
      0 ≤ e.carried ∧ e.carried ≤ calls.length * (2 ^ 63 - 1) ∧ FitsWide e.total := by
  rw [hcalls] at hwords
  obtain ⟨hpast, hrest⟩ := List.forall_mem_append.mp hwords
  obtain ⟨hcount, hsupplied⟩ := (List.forall_mem_cons.mp hrest).1
  have hlength : past.length + 1 ≤ calls.length := by
    rw [hcalls, List.length_append, List.length_cons]
    omega
  have hbefore := EnergyMeter.after_within hpast call.key
  constructor
  · intro before hmem round hround
    have hwithin := hbefore before hmem
    have hbounds : 0 < round ∧ round ≤ 2 ^ 63 - 1 :=
      hwithin.advance_range 0 hsupplied round hround
    have hnonneg := hwithin.carried_nonneg
    have hle := hwithin.carried_le
    constructor <;> omega
  · intro e he
    rw [(Sampler.energy_measure_eq _ _ _ _).1] at he
    obtain ⟨count, hmem, rfl⟩ := Option.map_eq_some_iff.mp he
    have hwithin := Energy.Within.next hbefore (hcount count hmem) hsupplied
    obtain ⟨hnonneg, hle, ⟨hlow, hhigh⟩, -⟩ := hwithin
    refine ⟨hnonneg, by omega, ?_⟩
    rw [FitsWide, Energy.total]
    constructor <;> omega

end Capacity

-- Since a key was last forgotten, its total never goes down as long as the latest range
-- explains every fall of the counter; a fall that it does not explain leaves nothing but
-- the counter. Whatever the inputs are, no sum outgrows 128 bits.
theorem totals_never_fall (calls : List EnergyCall) :
    (∀ key earlier count supplied n, Stretch key calls earlier count supplied n →
      (∀ i < n, 0 ≤ count i) →
      ∃ e : Nat → Energy,
        (EnergyMeter.answersTo key [] calls).drop earlier.length =
          (List.range n).map (fun i => some (e i)) ∧
        ((∀ i, i + 1 < n → count (i + 1) < count i → Explained count supplied i) →
          MonotoneOn (fun i => (e i).total) (Set.Iio n)) ∧
        ∀ i, i + 1 < n → count (i + 1) < count i → ¬Explained count supplied i →
          (e (i + 1)).total = count (i + 1)) ∧
    ((∀ call ∈ calls, call.InWords) → calls.length < 2 ^ 63 →
      ∀ past call later, calls = past ++ call :: later →
        (∀ before ∈ (EnergyMeter.after past).find? call.key,
          ∀ round ∈ (Energy.known call.range).or before.range,
            FitsWide (before.carried + round)) ∧
        ∀ e ∈ ((EnergyMeter.after past).measure call.key call.count call.range).1,
          0 ≤ e.carried ∧ e.carried ≤ calls.length * (2 ^ 63 - 1) ∧ FitsWide e.total) := by
  refine ⟨fun key earlier count supplied n hstretch hcount => ?_,
    fun hwords hfew past call later hcalls => sums_fit hwords hfew hcalls⟩
  refine ⟨energyAt count supplied, hstretch.answers, fun hexplained => ?_,
    fun i _ hfell hreset => energyAt_total_of_reset hfell hreset⟩
  apply monotoneOn_of_le_add_one Set.ordConnected_Iio
  intro i _ _ hi
  exact energyAt_total_le (hcount (i + 1) hi) (hexplained i hi)

-- A counter that was lost, falls once within a range told long before and is told a
-- smaller one later, beside one that falls from more than its range.
def lateCalls : List EnergyCall :=
  [⟨"web", some 900, none⟩, ⟨"db", some 70, some 10⟩, ⟨"web", none, some 1000⟩,
   ⟨"web", some 10, some 1000⟩, ⟨"db", some 3, none⟩, ⟨"web", some 990, some 0⟩,
   ⟨"web", some 5, none⟩, ⟨"web", some 700, some 100⟩]

def lateCount (i : Nat) : Int := [10, 990, 5, 700].getD i 0

def lateSupplied (i : Nat) : Option Int := [some 1000, some 0, none, some 100].getD i none

def shortCount (i : Nat) : Int := [70, 3].getD i 0

def shortSupplied (i : Nat) : Option Int := [some 10, none].getD i none

theorem explained_late {i : Nat} (hi : i + 1 < 4) (hfell : lateCount (i + 1) < lateCount i) :
    Explained lateCount lateSupplied i := by
  obtain rfl : i = 1 := by
    have honly : ∀ i < 3, lateCount (i + 1) < lateCount i → i = 1 := by decide
    exact honly i (by omega) hfell
  refine ⟨1000, ⟨by decide, 0, by decide, rfl, fun k hlt hle => ?_⟩, by decide⟩
  obtain rfl | rfl : k = 1 ∨ k = 2 := by omega
  · rintro _ ⟨⟩
    decide
  · rintro _ ⟨⟩

theorem not_explained_short : ¬Explained shortCount shortSupplied 0 := by
  rintro ⟨range, ⟨-, j, hj, hrange, -⟩, hle⟩
  obtain rfl | rfl : j = 0 ∨ j = 1 := by omega
  · cases hrange
    exact absurd hle (by decide)
  · cases hrange

theorem totals_never_fall_lateCalls :
    (∃ e : Nat → Energy,
      (EnergyMeter.answersTo "web" [] lateCalls).drop 2 = (List.range 4).map (fun i => some (e i)) ∧
      MonotoneOn (fun i => (e i).total) (Set.Iio 4)) ∧
    (∃ e : Nat → Energy,
      (EnergyMeter.answersTo "db" [] lateCalls).drop 0 = (List.range 2).map (fun i => some (e i)) ∧
      (e 1).total = 3) ∧
    ∀ e ∈ ((EnergyMeter.after (lateCalls.take 6)).measure "web" (some 5) none).1,
      e.carried ≤ 8 * (2 ^ 63 - 1) ∧ FitsWide e.total := by
  obtain ⟨hstretch, hsums⟩ := totals_never_fall lateCalls
  refine ⟨?_, ?_, fun e he => ?_⟩
  · obtain ⟨e, hanswers, hrise, -⟩ := hstretch "web" _ lateCount lateSupplied 4
      ⟨(by decide : _ = [⟨"web", some 900, none⟩, ⟨"web", none, some 1000⟩] ++ _), by decide⟩
      (by decide)
    exact ⟨e, hanswers, hrise fun i hi hfell => explained_late hi hfell⟩
  · obtain ⟨e, hanswers, -, hreset⟩ := hstretch "db" [] shortCount shortSupplied 2
      ⟨by decide, by decide⟩ (by decide)
    exact ⟨e, hanswers, hreset 0 (by decide) (by decide) not_explained_short⟩
  · have hwords : ∀ call ∈ lateCalls, call.InWords := by
      intro call hcall
      have hall : ∀ call ∈ lateCalls, (∀ count ∈ call.count, inIntRange count = true) ∧
          ∀ range ∈ call.range, inIntRange range = true := by decide
      exact ⟨(hall call hcall).1, (hall call hcall).2⟩
    obtain ⟨-, hbounds⟩ := hsums hwords (by decide) (lateCalls.take 6)
      ⟨"web", some 5, none⟩ (lateCalls.drop 7) rfl
    exact (hbounds e he).2

end HostTelemetry.Counter
