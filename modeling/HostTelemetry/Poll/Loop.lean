import HostTelemetry.Poll.Tick

namespace HostTelemetry.Poll

-- How long to wait for the next tick, if at all.
def pause? (interval elapsed : Nat) : Option Nat :=
  if elapsed < interval then some (interval - elapsed) else none

def nextStart (interval start finish : Nat) : Nat :=
  finish + (pause? interval (finish - start)).getD 0

theorem nextStart_eq (interval start finish : Nat) (h : start ≤ finish) :
    nextStart interval start finish = start + max interval (finish - start) := by
  unfold nextStart pause?
  split
  · simp only [Option.getD_some]; omega
  · simp only [Option.getD_none]; omega

theorem lt_nextStart {interval start finish : Nat} (hp : 0 < interval) (h : start ≤ finish) :
    start < nextStart interval start finish := by
  rw [nextStart_eq _ _ _ h]
  omega

structure Cadence where
  interval : Nat
  positive : 0 < interval

variable {σ : Type}

-- One turn of the loop: the calls that were made, and what came of them unless
-- the loop was stopped meanwhile.
structure Round where
  start : Nat
  calls : List Call
  result : Option Tick

def finishOf (plan : Plan) (input : Input) : Nat :=
  input.start + duration plan input.answers

theorem start_le_finishOf (plan : Plan) (input : Input) : input.start ≤ finishOf plan input :=
  Nat.le_add_right ..

-- Ticks from `start` on until `stop`. What a tick meets depends on its number and
-- its start. A tick that does not finish in time leaves no trace in the state.
def run (cadence : Cadence) (plan : Plan) (sink : Publish.Sink σ) (world : Nat → Nat → Input)
    (stop : Nat) (number start : Nat) (s : State σ) : List Round × State σ :=
  if stop ≤ start then ([], s)
  else
    let input := { world number start with start := start }
    let finish := finishOf plan input
    if stop < finish then ([⟨start, calls plan input, none⟩], s)
    else
      let (result, s) := tick plan sink input s
      let (rounds, s) :=
        run cadence plan sink world stop (number + 1) (nextStart cadence.interval start finish) s
      (⟨start, calls plan input, some result⟩ :: rounds, s)
  termination_by stop - start
  decreasing_by
    have := lt_nextStart cadence.positive
      (start_le_finishOf plan { world number start with start := start })
    simp only at this
    omega

end HostTelemetry.Poll
