import HostTelemetry.Poll.Loop
import HostTelemetry.Proofs.Poll.Arrivals
import Mathlib.Logic.Relation
import Mathlib.Tactic.IntervalCases

namespace HostTelemetry.Poll

open Relation (ReflTransGen)

variable {σ : Type}

-- What the loop awaits: nothing at its top, then the replies of a tick, then perhaps
-- the end of a pause.
inductive Phase where
  | ready
  | sampling
  | pausing (till : Nat)
  | ended

-- A loop on a clock that only its own waiting moves, with the rounds so far.
structure Loop (σ : Type) where
  now : Nat
  phase : Phase
  log : List Round
  state : State σ

-- All that the course of a loop depends on. The signal to stop comes at `stop`.
structure Course (σ : Type) where
  cadence : Cadence
  plan : Plan
  sink : Publish.Sink σ
  world : Nat → Nat → Input
  stop : Nat
  start : Nat
  first : State σ

namespace Course

variable (c : Course σ)

-- What the tick of this number meets if it starts at this time.
def met (number start : Nat) : Input :=
  { c.world number start with start := start }

def resting (start finish : Nat) : Phase :=
  match pause? c.cadence.interval (finish - start) with
  | some pause => .pausing (finish + pause)
  | none => .ready

def initial : Loop σ := ⟨c.start, .ready, [], c.first⟩

-- What the loop may do next. Whatever it awaits, it stops when the signal comes first.
-- Where both come at once either may win. The replies of a tick are only put to use
-- when the last of them is there.
inductive Step : Loop σ → Loop σ → Prop
  | begin {now : Nat} {log : List Round} {s : State σ} (h : now ≤ c.stop) :
      Step ⟨now, .ready, log, s⟩ ⟨now, .sampling, log, s⟩
  | finish {now : Nat} {log : List Round} {s : State σ}
      (h : finishOf c.plan (c.met log.length now) ≤ c.stop) :
      Step ⟨now, .sampling, log, s⟩
        ⟨finishOf c.plan (c.met log.length now),
          c.resting now (finishOf c.plan (c.met log.length now)),
          log ++ [⟨now, calls c.plan (c.met log.length now),
            some (tick c.plan c.sink (c.met log.length now) s).1⟩],
          (tick c.plan c.sink (c.met log.length now) s).2⟩
  | wake {now till : Nat} {log : List Round} {s : State σ} (h : till ≤ c.stop) :
      Step ⟨now, .pausing till, log, s⟩ ⟨till, .ready, log, s⟩
  | quit {now : Nat} {log : List Round} {s : State σ} (h : c.stop ≤ now) :
      Step ⟨now, .ready, log, s⟩ ⟨now, .ended, log, s⟩
  | cut {now : Nat} {log : List Round} {s : State σ}
      (h : c.stop ≤ finishOf c.plan (c.met log.length now)) :
      Step ⟨now, .sampling, log, s⟩
        ⟨c.stop, .ended, log ++ [⟨now, calls c.plan (c.met log.length now), none⟩], s⟩
  | rouse {now till : Nat} {log : List Round} {s : State σ} (h : c.stop ≤ till) :
      Step ⟨now, .pausing till, log, s⟩ ⟨c.stop, .ended, log, s⟩

-- When the ticks are due if nothing stops the loop.
def due : Nat → Nat
  | 0 => c.start
  | n + 1 => due n + max c.cadence.interval (duration c.plan (c.met n (due n)).answers)

def inputAt (n : Nat) : Input := c.met n (c.due n)

def lasts (n : Nat) : Nat := duration c.plan (c.inputAt n).answers

-- The state that the first `n` ticks leave.
def stateAt : Nat → State σ
  | 0 => c.first
  | n + 1 => (tick c.plan c.sink (c.inputAt n) (stateAt n)).2

def tickAt (n : Nat) : Tick := (tick c.plan c.sink (c.inputAt n) (c.stateAt n)).1

def roundAt (n : Nat) (result : Option Tick) : Round :=
  ⟨c.due n, calls c.plan (c.inputAt n), result⟩

def completed (k : Nat) : List Round :=
  (List.range k).map fun n => c.roundAt n (some (c.tickAt n))

-- Where a loop can stand after `k` ticks that it completed. A tick that was cut short
-- has its calls in the log, and nothing else is left of it.
inductive Stands : Nat → Loop σ → Prop
  | ready (k : Nat) (h : c.due k ≤ max c.start c.stop) :
      Stands k ⟨c.due k, .ready, c.completed k, c.stateAt k⟩
  | sampling (k : Nat) (h : c.due k ≤ c.stop) :
      Stands k ⟨c.due k, .sampling, c.completed k, c.stateAt k⟩
  | pausing (n : Nat) (h : c.due n + c.lasts n < c.due (n + 1)) :
      Stands (n + 1) ⟨c.due n + c.lasts n, .pausing (c.due (n + 1)), c.completed (n + 1),
        c.stateAt (n + 1)⟩
  | ended (k : Nat) (h : c.stop ≤ c.due k) :
      Stands k ⟨max c.start c.stop, .ended, c.completed k, c.stateAt k⟩
  | cut (k : Nat) (hstart : c.due k ≤ c.stop) (hfinish : c.stop ≤ c.due k + c.lasts k) :
      Stands k ⟨c.stop, .ended, c.completed k ++ [c.roundAt k none], c.stateAt k⟩

-- A loop that has completed `k` ticks, all of them before it was to stop.
structure Paced (k : Nat) (l : Loop σ) : Prop where
  inTime : ∀ n < k, c.due n + c.lasts n ≤ c.stop
  stands : c.Stands k l

theorem due_succ (n : Nat) : c.due (n + 1) = c.due n + max c.cadence.interval (c.lasts n) := rfl

theorem finishOf_inputAt (n : Nat) : finishOf c.plan (c.inputAt n) = c.due n + c.lasts n := rfl

theorem over_le_due (n : Nat) : c.due n + c.lasts n ≤ c.due (n + 1) := by
  rw [due_succ]
  omega

theorem due_lt_succ (n : Nat) : c.due n < c.due (n + 1) := by
  have hpositive := c.cadence.positive
  rw [due_succ]
  omega

theorem over_le_due_of_lt {m n : Nat} (h : m < n) : c.due m + c.lasts m ≤ c.due n :=
  (c.over_le_due m).trans ((strictMono_nat_of_lt_succ c.due_lt_succ).monotone h)

theorem start_le_due (n : Nat) : c.start ≤ c.due n :=
  (strictMono_nat_of_lt_succ c.due_lt_succ).monotone (Nat.zero_le n)

theorem met_completed (k : Nat) : c.met (c.completed k).length (c.due k) = c.inputAt k := by
  rw [completed, List.length_map, List.length_range, inputAt]

theorem completed_succ (k : Nat) :
    c.completed (k + 1) = c.completed k ++ [c.roundAt k (some (c.tickAt k))] := by
  rw [completed, List.range_succ, List.map_append]
  rfl

theorem Paced.initial : c.Paced 0 c.initial :=
  ⟨fun _ h => absurd h (Nat.not_lt_zero _), .ready 0 (Nat.le_max_left _ _)⟩

-- After a tick the loop pauses till the next start, unless that is now.
theorem resting_cases (start finish : Nat) :
    (c.resting start finish = .pausing (nextStart c.cadence.interval start finish) ∧
      finish < nextStart c.cadence.interval start finish) ∨
    (c.resting start finish = .ready ∧ nextStart c.cadence.interval start finish = finish) := by
  unfold resting nextStart pause?
  by_cases hshort : finish - start < c.cadence.interval
  · simp only [if_pos hshort, Option.getD_some, true_and]
    omega
  · simp only [if_neg hshort, Option.getD_none, Nat.add_zero, and_self, or_true]

theorem nextStart_due (n : Nat) :
    nextStart c.cadence.interval (c.due n) (c.due n + c.lasts n) = c.due (n + 1) := by
  rw [nextStart_eq _ _ _ (Nat.le_add_right _ _), Nat.add_sub_cancel_left, due_succ]

theorem Paced.finish {k : Nat} (hbefore : ∀ n < k, c.due n + c.lasts n ≤ c.stop)
    (h : c.due k + c.lasts k ≤ c.stop) :
    c.Paced (k + 1) ⟨c.due k + c.lasts k, c.resting (c.due k) (c.due k + c.lasts k),
      c.completed (k + 1), c.stateAt (k + 1)⟩ := by
  have hinTime : ∀ n < k + 1, c.due n + c.lasts n ≤ c.stop := by
    intro n hn
    rcases Nat.lt_succ_iff_lt_or_eq.mp hn with hlt | rfl
    · exact hbefore n hlt
    · exact h
  refine ⟨hinTime, ?_⟩
  have hcases := c.resting_cases (c.due k) (c.due k + c.lasts k)
  rw [nextStart_due] at hcases
  rcases hcases with ⟨hrest, hlater⟩ | ⟨hrest, hnow⟩ <;> rw [hrest]
  · exact .pausing k hlater
  · rw [← hnow] at h ⊢
    exact .ready (k + 1) (h.trans (Nat.le_max_right _ _))

theorem Paced.step {k : Nat} {l later : Loop σ} (h : c.Paced k l) (hstep : c.Step l later) :
    ∃ k, c.Paced k later := by
  obtain ⟨hinTime, hstands⟩ := h
  cases hstands with
  | ready k hdue =>
      cases hstep with
      | begin hle => exact ⟨k, hinTime, .sampling k hle⟩
      | quit hle =>
          -- Past the signal, the loop is at its top only where it begins.
          have hstart := c.start_le_due k
          have hnow : c.due k = max c.start c.stop := by omega
          refine ⟨k, hinTime, ?_⟩
          have hended := Stands.ended k hle
          rwa [← hnow] at hended
  | sampling k hdue =>
      cases hstep with
      | finish hle =>
          rw [met_completed] at hle ⊢
          have hnext := Paced.finish c hinTime hle
          rw [completed_succ] at hnext
          exact ⟨k + 1, hnext⟩
      | cut hle =>
          rw [met_completed] at hle ⊢
          exact ⟨k, hinTime, .cut k hdue hle⟩
  | pausing n hlater =>
      cases hstep with
      | wake hle => exact ⟨n + 1, hinTime, .ready (n + 1) (hle.trans (Nat.le_max_right _ _))⟩
      | rouse hle =>
          have hlast := hinTime n (Nat.lt_succ_self n)
          have hstart := c.start_le_due n
          have hnow : c.stop = max c.start c.stop := by omega
          have hended := Stands.ended (n + 1) hle
          rw [← hnow] at hended
          exact ⟨n + 1, hinTime, hended⟩
  | ended => cases hstep
  | cut => cases hstep

theorem paced_of_steps {l : Loop σ} (h : ReflTransGen c.Step c.initial l) : ∃ k, c.Paced k l := by
  induction h with
  | refl => exact ⟨0, Paced.initial c⟩
  | tail _ hstep ih =>
      obtain ⟨k, hpaced⟩ := ih
      exact hpaced.step c hstep

-- A loop that has not ended always has something to do next.
theorem Paced.progress {k : Nat} {l : Loop σ} (h : c.Paced k l) :
    l.phase = .ended ∨ ∃ later, c.Step l later := by
  cases h.stands with
  | ready k hdue =>
      rcases Nat.le_total (c.due k) c.stop with hle | hle
      · exact .inr ⟨_, .begin hle⟩
      · exact .inr ⟨_, .quit hle⟩
  | sampling k hdue =>
      rcases Nat.le_total (finishOf c.plan (c.met (c.completed k).length (c.due k))) c.stop with
        hle | hle
      · exact .inr ⟨_, .finish hle⟩
      · exact .inr ⟨_, .cut hle⟩
  | pausing n hlater =>
      rcases Nat.le_total (c.due (n + 1)) c.stop with hle | hle
      · exact .inr ⟨_, .wake hle⟩
      · exact .inr ⟨_, .rouse hle⟩
  | ended => exact .inl rfl
  | cut => exact .inl rfl

end Course

def Phase.rank : Phase → Nat
  | ready => 3
  | sampling => 2
  | pausing _ => 1
  | ended => 0

namespace Course

variable (c : Course σ)

-- Bounds the number of steps that are left to a loop.
def left (l : Loop σ) : Nat := 4 * (c.stop - l.now) + l.phase.rank

-- The clock stands still only where the phase moves on to the next.
theorem Paced.left_lt {k : Nat} {l later : Loop σ} (h : c.Paced k l) (hstep : c.Step l later) :
    c.left later < c.left l := by
  cases h.stands with
  | ready k hdue => cases hstep <;> simp only [left, Phase.rank] <;> omega
  | sampling k hdue =>
      cases hstep with
      | finish hle =>
          rw [met_completed, finishOf_inputAt] at hle ⊢
          have hnext := c.due_lt_succ k
          have hcases := c.resting_cases (c.due k) (c.due k + c.lasts k)
          rw [nextStart_due] at hcases
          rcases hcases with ⟨hrest, hlater⟩ | ⟨hrest, hnow⟩ <;>
            simp only [left, hrest, Phase.rank] <;> omega
      | cut hle =>
          simp only [left, Phase.rank]
          omega
  | pausing n hlater => cases hstep <;> simp only [left, Phase.rank] <;> omega
  | ended => cases hstep
  | cut => cases hstep

theorem no_endless_course (course : Nat → Loop σ) (hfirst : course 0 = c.initial) :
    ∃ n, ¬c.Step (course n) (course (n + 1)) := by
  by_contra hall
  push Not at hall
  have hsteps : ∀ n, ReflTransGen c.Step c.initial (course n) := by
    intro n
    induction n with
    | zero => rw [hfirst]
    | succ n ih => exact ih.tail (hall n)
  -- Each of the steps uses up something of what is left at first.
  have hleft : ∀ n, c.left (course n) + n ≤ c.left c.initial := by
    intro n
    induction n with
    | zero => rw [hfirst, Nat.add_zero]
    | succ n ih =>
        obtain ⟨k, hpaced⟩ := c.paced_of_steps (hsteps n)
        have hlt := hpaced.left_lt c (hall n)
        omega
  have hbound := hleft (c.left c.initial + 1)
  omega

theorem steps_of_resting {start finish : Nat} (log : List Round) (s : State σ)
    (h : nextStart c.cadence.interval start finish ≤ c.stop) :
    ReflTransGen c.Step ⟨finish, c.resting start finish, log, s⟩
      ⟨nextStart c.cadence.interval start finish, .ready, log, s⟩ := by
  rcases c.resting_cases start finish with ⟨hrest, -⟩ | ⟨hrest, hnow⟩ <;> rw [hrest]
  · exact .single (.wake h)
  · rw [hnow]

theorem step_of_resting {start finish : Nat} (log : List Round) (s : State σ)
    (hfinish : finish ≤ c.stop) (h : c.stop < nextStart c.cadence.interval start finish) :
    c.Step ⟨finish, c.resting start finish, log, s⟩ ⟨c.stop, .ended, log, s⟩ := by
  rcases c.resting_cases start finish with ⟨hrest, -⟩ | ⟨-, hnow⟩
  · rw [hrest]
    exact .rouse h.le
  · omega

-- What is left to run from the start of a tick on.
def ran (number start : Nat) (s : State σ) : List Round × State σ :=
  run c.cadence c.plan c.sink c.world c.stop number start s

theorem ran_of_stop_le {number start : Nat} {s : State σ} (h : c.stop ≤ start) :
    c.ran number start s = ([], s) := by
  rw [ran, run, if_pos h]

theorem ran_of_cut {number start : Nat} {s : State σ} (hstart : start < c.stop)
    (h : c.stop < finishOf c.plan (c.met number start)) :
    c.ran number start s = ([⟨start, calls c.plan (c.met number start), none⟩], s) := by
  rw [ran, run, if_neg (Nat.not_le.mpr hstart)]
  exact if_pos h

theorem ran_of_finished {number start : Nat} {s : State σ} (hstart : start < c.stop)
    (h : finishOf c.plan (c.met number start) ≤ c.stop) :
    c.ran number start s =
      let done := tick c.plan c.sink (c.met number start) s
      let later := c.ran (number + 1)
        (nextStart c.cadence.interval start (finishOf c.plan (c.met number start))) done.2
      (⟨start, calls c.plan (c.met number start), some done.1⟩ :: later.1, later.2) := by
  rw [ran, run, if_neg (Nat.not_le.mpr hstart)]
  exact if_neg (Nat.not_lt.mpr h)

-- The loop as it is run takes these steps; where the signal comes together with what
-- the loop awaits, a tick is still completed and none is begun. The induction is on the
-- time that is left until the signal.
theorem steps_ran {start : Nat} (h : start ≤ c.stop) (log : List Round) (s : State σ) :
    ReflTransGen c.Step ⟨start, .ready, log, s⟩
      ⟨c.stop, .ended, log ++ (c.ran log.length start s).1, (c.ran log.length start s).2⟩ := by
  induction hleft : c.stop - start using Nat.strong_induction_on generalizing start log s with
  | _ left ih =>
      rcases h.eq_or_lt with rfl | hstart
      · rw [c.ran_of_stop_le le_rfl, List.append_nil]
        exact .single (.quit le_rfl)
      refine .head (.begin h) ?_
      rcases Nat.lt_or_ge c.stop (finishOf c.plan (c.met log.length start)) with hcut | hfinish
      · rw [c.ran_of_cut hstart hcut]
        exact .single (.cut hcut.le)
      rw [c.ran_of_finished hstart hfinish]
      refine .head (.finish hfinish) ?_
      dsimp only
      have hnext := lt_nextStart c.cadence.positive
        (start_le_finishOf c.plan (c.met log.length start))
      rcases Nat.lt_or_ge c.stop (nextStart c.cadence.interval start
        (finishOf c.plan (c.met log.length start))) with hlate | hdue
      · rw [c.ran_of_stop_le hlate.le]
        exact .single (c.step_of_resting _ _ hfinish hlate)
      · have hlater := ih _ (hleft ▸ Nat.sub_lt_sub_left hstart hnext) hdue
          (log ++ [⟨start, calls c.plan (c.met log.length start),
            some (tick c.plan c.sink (c.met log.length start) s).1⟩])
          (tick c.plan c.sink (c.met log.length start) s).2 rfl
        rw [List.length_append, List.length_singleton, List.append_assoc] at hlater
        exact (c.steps_of_resting _ _ hdue).trans hlater

-- What is to be said of each tick, whether or not the loop gets to it: no host is asked
-- before all its earlier replies are there or given up.
structure Regular (hosts : List Host) (n : Nat) : Prop where
  calls : calls c.plan (c.inputAt n) =
    hosts.map fun host => ⟨host.name, c.plan.command, c.plan.timeout, c.due n⟩
  slowest : Slowest c.plan (c.inputAt n).answers (c.lasts n)
  finish : (c.tickAt n).finish = c.due n + c.lasts n
  spaced : c.due (n + 1) = c.due n + max c.cadence.interval (c.lasts n)
  apart : ∀ m < n, ∀ answer ∈ (c.inputAt m).answers,
    c.due m + min answer.2.delay c.plan.timeout ≤ c.due n
  stamped : Stamped c.plan (c.due n) (c.stateAt n).sampler (c.inputAt n).answers
    (c.tickAt n).report.hosts (c.stateAt (n + 1)).sampler

theorem regular {hosts : List Host}
    (hhosts : ∀ number start, (c.world number start).answers.map Prod.fst = hosts) (n : Nat) :
    c.Regular hosts n where
  calls := by
    rw [← hhosts n (c.due n), List.map_map]
    rfl
  slowest := duration_slowest _ _
  finish := rfl
  spaced := c.due_succ n
  apart m hlt answer hanswer := by
    have hlongest := (duration_slowest c.plan (c.inputAt m).answers).1 answer hanswer
    have hover := c.over_le_due_of_lt hlt
    rw [lasts] at hover
    omega
  stamped := tick_stamped c.plan c.sink (c.inputAt n) (c.stateAt n)

end Course

-- One of two hosts takes longer than the interval, and the third tick is cut short.
def slowCourse : Course Unit where
  cadence := ⟨30000, by decide⟩
  plan := ⟨60000, "stats", []⟩
  sink := deafSink
  world _ start := ⟨start, 1700000000000,
    [(⟨"web", "10.0.0.1", 22, "root", none, none⟩, ⟨40000, .ok ⟨"\x7b\x7d", "", some 0⟩⟩),
     (⟨"db", "10.0.0.2", 22, "root", none, none⟩, ⟨1000, .ok ⟨"\x7b\x7d", "", some 0⟩⟩)], none⟩
  stop := 85000
  start := 0
  first := .start () .inMemory [] (Stream.Channel.ofCapacity 1)

end HostTelemetry.Poll
