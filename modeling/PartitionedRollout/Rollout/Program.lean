/-
# PartitionedRollout.Rollout.Program -- rollouts as programs over requests

Everything a rollout does to the world outside is a `Request`: store calls, looks at the clock
and at the shutdown signal, waits, random draws, network exchanges, and calls to collaborators
that are not part of this library. A `Program` is a tree of requests that branches on their
replies, so it has a meaning for every behaviour of the outside: `run` answers the requests
from a state, and `Run` relates a program to every sequence of exchanges that it can take part
in.

Programs end in a value, or they halt: because a length of time outgrew its range, or because
a loop that only the outside can end used up its rounds.
-/

import PartitionedRollout.Binary64
import PartitionedRollout.Health.Endpoint
import PartitionedRollout.Rollout.Failure
import PartitionedRollout.Store.Error
import PartitionedRollout.TimeSpan.Basic
import PartitionedRollout.Workload.Basic

namespace PartitionedRollout

/-- What a program asks of the outside. -/
inductive Request where
  /-- Read a workload set. -/
  | get (id : WorkloadId)
  /-- Replace the specification of a workload set. -/
  | update (w : WorkloadSet)
  /-- Compute the desired set from the current one. -/
  | transform (w : WorkloadSet)
  /-- Say whether a replica runs the template of a working copy. -/
  | verify (ordinal : UInt32) (desired : WorkloadSet)
  /-- Say the same, but stop as soon as the shutdown signal is noticed. What is polled may also be
  something that no working copy describes. -/
  | check (ordinal : UInt32) (desired : WorkloadSet := default)
  /-- Wait until every replica is ready. -/
  | awaitReady
  /-- Say whether the cluster is healthy. -/
  | probeHealth (checkpoint : String) (ordinal : UInt32)
  /-- Say whether the rollout has been told to stop. -/
  | stopping
  /-- Wait, unless the rollout has been or is told to stop. -/
  | sleep (d : TimeSpan)
  /-- Say how much time has passed since some fixed instant. -/
  | now
  /-- Draw a length of time around an interval, at most the factor times the interval away from
  it. -/
  | draw (interval : TimeSpan) (factor : Binary64)
  /-- Send an HTTP request and wait for the status line, but not longer than given. -/
  | fetch (request : HttpRequest) (timeout : TimeSpan)
  deriving DecidableEq, Repr

/-- The type of the replies to a request. A check answers nothing when it is cut short, a wait
answers whether it was, a draw answers nothing when the number drawn is out of the range of time
spans, and an HTTP request answers nothing when no status line arrives. -/
@[reducible]
def Request.Reply : Request → Type
  | .get _ => Except StoreError WorkloadSet
  | .update _ => Except StoreError WorkloadSet
  | .transform _ => Except Failure WorkloadSet
  | .verify _ _ => Except Failure Unit
  | .check _ _ => Option (Except Failure Unit)
  | .awaitReady => Except Failure Unit
  | .probeHealth _ _ => Except Failure Unit
  | .stopping => Bool
  | .sleep _ => Bool
  | .now => TimeSpan
  | .draw _ _ => Option TimeSpan
  | .fetch _ _ => Option UInt16

/-- Why a program halts without a value. -/
inductive Halt where
  /-- A length of time outgrew its range. -/
  | overflow
  /-- A loop used up its rounds. -/
  | exhausted
  deriving DecidableEq, Repr

/-- How a program ends. -/
abbrev Ending (α : Type) := Except Halt α

/-- A tree of requests that branches on their replies. -/
inductive Program (α : Type) : Type where
  /-- End with a value. -/
  | done (a : α)
  /-- End without a value. -/
  | halt (h : Halt)
  /-- Make a request and go on with the reply. -/
  | ask (r : Request) (next : r.Reply → Program α)

namespace Program

variable {α β γ : Type}

/-- Go on with the value of a program. -/
def bind : Program α → (α → Program β) → Program β
  | done a, f => f a
  | halt h, _ => halt h
  | ask r next, f => ask r fun x => (next x).bind f

instance : Monad Program where
  pure := done
  bind := bind

/-- Make a request and end with the reply. -/
def call (r : Request) : Program r.Reply :=
  ask r done

/-- End with a value if there is one; without one some length of time has outgrown its range. -/
def ofOption : Option α → Program α
  | some a => done a
  | none => halt .overflow

/-! ## The meaning of programs -/

/-- Answer the requests of a program from a state. -/
def run {σ : Type} (answer : σ → (r : Request) → r.Reply × σ) :
    Program α → σ → Ending α × σ
  | done a, s => (.ok a, s)
  | halt h, s => (.error h, s)
  | ask r next, s =>
    let p := answer s r
    run answer (next p.1) p.2

/-- Answer the requests of a program in a monad, such as that of the real world. -/
def interpret {m : Type → Type} [Monad m] (answer : (r : Request) → m r.Reply) :
    Program α → m (Ending α)
  | done a => pure (.ok a)
  | halt h => pure (.error h)
  | ask r next => do
    let x ← answer r
    interpret answer (next x)

/-- A request together with the reply that it got. -/
structure Exchange where
  /-- The request. -/
  request : Request
  /-- The reply. -/
  reply : request.Reply

/-- `Run p es e`: with the exchanges `es`, in this order and no others, the program `p` ends as
`e`. -/
inductive Run : Program α → List Exchange → Ending α → Prop where
  /-- A program that is done makes no request. -/
  | done (a : α) : Run (.done a) [] (.ok a)
  /-- Nor does one that has halted. -/
  | halt (h : Halt) : Run (.halt h) [] (.error h)
  /-- Any reply may come, and the program goes on with it. -/
  | ask {r : Request} {next : r.Reply → Program α} (x : r.Reply) {es : List Exchange}
      {e : Ending α} (rest : Run (next x) es e) : Run (.ask r next) (⟨r, x⟩ :: es) e

/-! ## Monad laws -/

@[simp]
theorem pure_eq_done (a : α) : (pure a : Program α) = done a :=
  rfl

@[simp]
theorem done_bind (a : α) (f : α → Program β) : (done a >>= f) = f a :=
  rfl

@[simp]
theorem halt_bind (h : Halt) (f : α → Program β) : ((halt h : Program α) >>= f) = halt h :=
  rfl

@[simp]
theorem ask_bind (r : Request) (next : r.Reply → Program α) (f : α → Program β) :
    (ask r next >>= f) = ask r fun x => next x >>= f :=
  rfl

@[simp]
theorem call_bind (r : Request) (f : r.Reply → Program β) : (call r >>= f) = ask r f :=
  rfl

theorem bind_done (p : Program α) : (p >>= done) = p := by
  induction p with
  | done => rfl
  | halt => rfl
  | ask r next ih => exact congrArg (ask r) (funext ih)

theorem bind_assoc (p : Program α) (f : α → Program β) (g : β → Program γ) :
    ((p >>= f) >>= g) = (p >>= fun a => f a >>= g) := by
  induction p with
  | done => rfl
  | halt => rfl
  | ask r next ih => exact congrArg (ask r) (funext ih)

instance : LawfulMonad Program :=
  LawfulMonad.mk' Program
    (fun p => bind_done p)
    (fun _ _ => rfl)
    bind_assoc

end Program

end PartitionedRollout
