/-
# PartitionedRollout.Rollout.Failure -- failures with their causes

What goes wrong inside a collaborator of a rollout is reported as a chain of texts: what
failed, and below it what caused that, outermost first.
-/

namespace PartitionedRollout

/-- A failure and the causes below it, outermost first. -/
structure Failure where
  /-- What failed. -/
  message : String
  /-- What caused it. -/
  causes : List String
  deriving DecidableEq, Repr, Inhabited

namespace Failure

/-- A failure without a known cause. -/
def plain (message : String) : Failure :=
  ⟨message, []⟩

/-- The texts of a failure, outermost first. -/
def chain (f : Failure) : List String :=
  f.message :: f.causes

/-- The failure that a nonempty chain of texts describes. -/
def ofChain : List String → Failure
  | [] => ⟨"", []⟩
  | m :: causes => ⟨m, causes⟩

end Failure

end PartitionedRollout
