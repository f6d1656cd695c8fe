/-
# PartitionedRollout.Proofs.Rollout.Run -- taking the runs of a program apart

`Run` says with which exchanges a program can end and how. Here is one equivalence for each way
to build a program, so that later modules never open the relation itself: a program that asks
has one exchange in front of the rest, and the exchanges of a sequence are those of its first
part followed by those of its second part, unless the first part halts.
-/

import PartitionedRollout.Rollout.Program

namespace PartitionedRollout.Program

variable {α β : Type}

@[simp]
theorem run_done_iff {a : α} {es : List Exchange} {e : Ending α} :
    Run (.done a) es e ↔ es = [] ∧ e = .ok a := by
  constructor
  · rintro ⟨⟩
    exact ⟨rfl, rfl⟩
  · rintro ⟨rfl, rfl⟩
    exact .done a

@[simp]
theorem run_halt_iff {h : Halt} {es : List Exchange} {e : Ending α} :
    Run (.halt h : Program α) es e ↔ es = [] ∧ e = .error h := by
  constructor
  · rintro ⟨⟩
    exact ⟨rfl, rfl⟩
  · rintro ⟨rfl, rfl⟩
    exact .halt h

theorem run_ask_iff {r : Request} {next : r.Reply → Program α} {es : List Exchange}
    {e : Ending α} :
    Run (.ask r next) es e ↔ ∃ x rest, es = ⟨r, x⟩ :: rest ∧ Run (next x) rest e := by
  constructor
  · rintro ⟨⟩
    exact ⟨_, _, rfl, by assumption⟩
  · rintro ⟨x, rest, rfl, h⟩
    exact .ask x h

theorem run_call_iff {r : Request} {es : List Exchange} {e : Ending r.Reply} :
    Run (call r) es e ↔ ∃ x, es = [⟨r, x⟩] ∧ e = .ok x := by
  rw [call, run_ask_iff]
  constructor
  · rintro ⟨x, rest, rfl, h⟩
    obtain ⟨rfl, rfl⟩ := run_done_iff.1 h
    exact ⟨x, rfl, rfl⟩
  · rintro ⟨x, rfl, rfl⟩
    exact ⟨x, [], rfl, .done x⟩

/-- A program that starts with a call has the exchange of that call in front. -/
theorem run_call_bind_iff {r : Request} {f : r.Reply → Program α} {es : List Exchange}
    {e : Ending α} :
    Run (call r >>= f) es e ↔ ∃ x rest, es = ⟨r, x⟩ :: rest ∧ Run (f x) rest e :=
  run_ask_iff

/-- The exchanges of a sequence split where its first part ends. -/
theorem run_bind_iff {p : Program α} {f : α → Program β} {es : List Exchange} {e : Ending β} :
    Run (p >>= f) es e ↔
      (∃ a es₁ es₂, es = es₁ ++ es₂ ∧ Run p es₁ (.ok a) ∧ Run (f a) es₂ e) ∨
        ∃ h, e = .error h ∧ Run p es (.error h) := by
  induction p generalizing es with
  | done a =>
    simp only [done_bind, run_done_iff]
    constructor
    · intro h
      exact .inl ⟨a, [], es, rfl, ⟨rfl, rfl⟩, h⟩
    · rintro (⟨_, _, es₂, rfl, ⟨rfl, ⟨⟩⟩, h⟩ | ⟨h, -, -, ⟨⟩⟩)
      exact h
  | halt h =>
    simp only [halt_bind, run_halt_iff]
    constructor
    · rintro ⟨rfl, rfl⟩
      exact .inr ⟨h, rfl, rfl, rfl⟩
    · rintro (⟨_, _, _, -, ⟨-, ⟨⟩⟩, -⟩ | ⟨_, rfl, rfl, ⟨⟩⟩)
      exact ⟨rfl, rfl⟩
  | ask r next ih =>
    simp only [ask_bind, run_ask_iff, ih]
    constructor
    · rintro ⟨x, rest, rfl, ⟨a, es₁, es₂, rfl, h₁, h₂⟩ | ⟨h, rfl, h₁⟩⟩
      · exact .inl ⟨a, ⟨r, x⟩ :: es₁, es₂, rfl, ⟨x, es₁, rfl, h₁⟩, h₂⟩
      · exact .inr ⟨h, rfl, x, rest, rfl, h₁⟩
    · rintro (⟨a, _, es₂, rfl, ⟨x, es₁, rfl, h₁⟩, h₂⟩ | ⟨h, rfl, x, rest, rfl, h₁⟩)
      · exact ⟨x, es₁ ++ es₂, rfl, .inl ⟨a, es₁, es₂, rfl, h₁, h₂⟩⟩
      · exact ⟨x, rest, rfl, .inr ⟨h, rfl, h₁⟩⟩

end PartitionedRollout.Program
