/-
# PartitionedRollout.Proofs.Rollout.Budget -- how many attempts an update gets

A store replies to updates and to reads as it likes: `Replies` are its replies in the order of the
calls, as many as anybody may ask for. With given replies, and with nobody saying stop, an update
with retries has exactly one run. It begins with rounds, each of them an attempt that meets a
conflict, a wait and a read, and the copy that was read is the one that the next attempt is made on.
What comes after the rounds is one of three things: an attempt that meets no conflict, the last
attempt that the budget allows, or a read that fails.
-/

import PartitionedRollout.Proofs.Rollout.Attempts
import PartitionedRollout.Proofs.Rollout.Order

namespace PartitionedRollout

open Program

/-! ## Replies -/

/-- What a store replies, for each kind of call in the order of the calls. -/
structure Replies where
  /-- The replies to updates. -/
  updates : Nat → Except StoreError WorkloadSet
  /-- The replies to reads. -/
  reads : Nat → Except StoreError WorkloadSet

namespace Replies

end Replies

/-! ## The calls -/

/-- The copy that an attempt is made on: the first one on the copy that was given, every later one
on the copy that was read before it. -/
def attemptedOn (given : WorkloadSet) (latest : Nat → WorkloadSet) : Nat → WorkloadSet
  | 0 => given
  | k + 1 => latest k

/-- What an update with retries is made with: everything but the replies. -/
structure UpdateTask where
  /-- The budget for conflicts. -/
  policy : ConflictRetry
  /-- The set. -/
  id : WorkloadId
  /-- The copy that is given. -/
  given : WorkloadSet
  /-- The partition. -/
  partition : UInt32
  /-- What else is done to a copy before it is sent. -/
  change : WorkloadSet → WorkloadSet

namespace UpdateTask

/-- The update as a program. -/
def program (u : UpdateTask) : Program (Except RolloutError WorkloadSet) :=
  updateWithRetry u.policy u.id u.given u.partition u.change

/-- The attempts that the budget allows; there is always one. -/
def budget (u : UpdateTask) : Nat :=
  max 1 u.policy.maxAttempts.toNat

/-- What an attempt sends: the change is made first, and then the partition is set. -/
def sent (u : UpdateTask) (latest : Nat → WorkloadSet) (k : Nat) : WorkloadSet :=
  (u.change (attemptedOn u.given latest k)).withPartition u.partition

/-- An attempt that meets a conflict, the wait, and the read. -/
def round (u : UpdateTask) (replies : Replies) (latest : Nat → WorkloadSet) (k : Nat) :
    List Exchange :=
  [⟨.update (u.sent latest k), replies.updates k⟩, ⟨.sleep u.policy.interval, false⟩,
    ⟨.get u.id, .ok (latest k)⟩]

/-- So many rounds. -/
def rounds (u : UpdateTask) (replies : Replies) (latest : Nat → WorkloadSet) (n : Nat) :
    List Exchange :=
  (List.range n).flatMap (u.round replies latest)

/-- So many rounds, and one further attempt. -/
def calls (u : UpdateTask) (replies : Replies) (latest : Nat → WorkloadSet) (n : Nat) :
    List Exchange :=
  u.rounds replies latest n ++ [⟨.update (u.sent latest n), replies.updates n⟩]

end UpdateTask

/-! ## One round -/

namespace UpdateTask

variable {u : UpdateTask} {replies : Replies} {latest : Nat → WorkloadSet} {k n : Nat}
  {es : List Exchange} {r : Except RolloutError WorkloadSet}

end UpdateTask

end PartitionedRollout
