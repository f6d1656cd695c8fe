/-
# PartitionedRollout.Rollout.Polling -- repeat a check until it succeeds

A check is made at once. After a failed one the poll waits for the current interval and lets
the interval grow; it gives up when the next wait would end beyond the time budget. The
shutdown signal is looked at before every check, it cuts a running check short, and it ends a
wait. A successful poll answers the number of checks it took.
-/

import PartitionedRollout.Rollout.Backoff
import PartitionedRollout.TimeSpan.Printer

namespace PartitionedRollout

/-- Why a poll ended without success. -/
inductive PollError where
  /-- The budget was spent: so many checks were made, and the last one failed after so long. -/
  | timedOut (attempts : UInt32) (elapsed : TimeSpan) (last : Failure)
  /-- The shutdown signal was noticed after so many checks had been begun. -/
  | cancelled (attempts : UInt32)
  deriving DecidableEq, Repr

/-- The text of an unsuccessful end. -/
def PollError.message : PollError → String
  | .timedOut n d _ => s!"gave up after {n} attempts in {d}"
  | .cancelled n => s!"cancelled after {n} attempts"

/-- The rounds of a poll that was begun at `start`, with the current interval and the number of
checks begun so far. -/
def pollFrom (b : Backoff) (check : Program (Option (Except Failure Unit))) (start : TimeSpan) :
    (rounds : Nat) → (interval : TimeSpan) → (attempts : UInt32) →
      Program (Except PollError UInt32)
  | 0, _, _ => .halt .exhausted
  | rounds + 1, interval, attempts => do
    if ← .call .stopping then
      return .error (.cancelled attempts)
    match ← check with
    | none => return .error (.cancelled (attempts + 1))
    | some (.ok ()) => return .ok (attempts + 1)
    | some (.error last) =>
      let elapsed := (← .call .now) - start
      let wait ← b.wait interval
      let reach ← .ofOption (elapsed.add? wait)
      if b.maxElapsed < reach then
        return .error (.timedOut (attempts + 1) elapsed last)
      if ← .call (.sleep wait) then
        return .error (.cancelled (attempts + 1))
      let next ← .ofOption (b.grow? interval)
      pollFrom b check start rounds next (attempts + 1)

/-- Repeat a check until it succeeds, the budget is spent, or the shutdown signal is noticed. -/
def poll (rounds : Nat) (b : Backoff) (check : Program (Option (Except Failure Unit))) :
    Program (Except PollError UInt32) := do
  let start ← .call .now
  pollFrom b check start rounds b.firstInterval 0

end PartitionedRollout
