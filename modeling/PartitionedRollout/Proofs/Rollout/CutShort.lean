/-
# PartitionedRollout.Proofs.Rollout.CutShort -- checks that the shutdown signal cuts short

The verifier that compares revisions reads the set, and in this library a check of it always ends
with an answer. The signal may also cut such a check short, before the set is read or while it is.
`Verifier.interruptible` is the verifier with these checks.

It has no rollouts that the other one does not have. A run in which a check is cut short is matched
by one in which the look in front of that check notices the signal: it ends the same, and it differs
in looks and reads only, so that every write, every wait and every call of a gate is the same.
-/

import PartitionedRollout.Proofs.Rollout.Handler

namespace PartitionedRollout

open Program

/-- The verifier that compares revisions, with checks that the signal may cut short. -/
def Verifier.interruptible : Verifier where
  verify := Verifier.revision.verify
  check desired id ordinal := do
    if ← .call .stopping then
      return none
    let answer ← verifyRevision desired.updateRevision id ordinal
    if ← .call .stopping then
      return none
    return some answer

/-! ## Matched runs -/

/-- The request is a look at the signal or a read, of which others notice nothing. -/
def Request.peeks : Request → Bool
  | .get _ => true
  | .stopping => true
  | _ => false

namespace Program

/-- The exchanges that are neither looks nor reads. -/
def acts (es : List Exchange) : List Exchange :=
  es.filter fun x => !x.request.peeks

@[simp]
theorem acts_append (es fs : List Exchange) : acts (es ++ fs) = acts es ++ acts fs :=
  List.filter_append ..

@[simp]
theorem acts_stopping (stopped : Bool) (es : List Exchange) :
    acts (⟨.stopping, stopped⟩ :: es) = acts es :=
  rfl

@[simp]
theorem acts_get (id : WorkloadId) (reply : Except StoreError WorkloadSet) (es : List Exchange) :
    acts (⟨.get id, reply⟩ :: es) = acts es :=
  rfl

variable {α β : Type}

/-- Two programs end in related values, or they halt for the same reason. -/
inductive Alike (R : α → α → Prop) : Ending α → Ending α → Prop where
  | ok {a b : α} (h : R a b) : Alike R (.ok a) (.ok b)
  | error (h : Halt) : Alike R (.error h) (.error h)

/-- Every run of the first program is matched by one of the second that acts and ends alike. -/
def Matched (R : α → α → Prop) (m n : Program α) : Prop :=
  ∀ es e, Run m es e → ∃ fs f, Run n fs f ∧ Alike R e f ∧ acts fs = acts es

namespace Matched

variable {R : α → α → Prop} {S : β → β → Prop}

theorem same {m : Program α} (h : ∀ a, R a a) : Matched R m m := by
  intro es e hrun
  refine ⟨es, e, hrun, ?_, rfl⟩
  cases e with
  | ok a => exact .ok (h a)
  | error h => exact .error h

theorem bind {m n : Program α} {f g : α → Program β} (hm : Matched R m n)
    (hf : ∀ a b, R a b → Matched S (f a) (g b)) : Matched S (m >>= f) (n >>= g) := by
  intro es e hrun
  rcases run_bind_iff.1 hrun with ⟨a, es₁, es₂, rfl, hfirst, hsecond⟩ | ⟨h, rfl, hfirst⟩
  · obtain ⟨fs₁, _, hn, halike, hacts₁⟩ := hm es₁ _ hfirst
    cases halike with
    | @ok _ b hab =>
      obtain ⟨fs₂, f, hg, hend, hacts₂⟩ := hf a b hab es₂ e hsecond
      refine ⟨fs₁ ++ fs₂, f, run_bind_iff.2 (.inl ⟨b, fs₁, fs₂, rfl, hn, hg⟩), hend, ?_⟩
      rw [acts_append, acts_append, hacts₁, hacts₂]
  · obtain ⟨fs, _, hn, halike, hacts⟩ := hm es _ hfirst
    cases halike
    exact ⟨fs, _, run_bind_iff.2 (.inr ⟨h, rfl, hn⟩), .error h, hacts⟩

/-- A first part that both programs share. -/
theorem bind_same {m : Program α} {f g : α → Program β} (hf : ∀ a, Matched S (f a) (g a)) :
    Matched S (m >>= f) (m >>= g) := by
  refine bind (R := Eq) (same fun _ => rfl) ?_
  rintro a _ rfl
  exact hf a

end Matched

end Program

/-! ## Polls -/

section

variable {id : WorkloadId} {p : UInt32} {w : WorkloadSet}

/-- A check that may be cut short answers nothing, or what a reading of the set says. -/
theorem run_checkInterruptible {es : List Exchange} {e : Ending (Option (Except Failure Unit))}
    (h : Run (Verifier.interruptible.check w id p) es e) :
    acts es = [] ∧
      (e = .ok none ∨ ∃ reply, e = .ok (some (judged w.updateRevision id p reply))) := by
  obtain ⟨before, rest, rfl, hrest⟩ := run_call_bind_iff.1 h
  cases before with
  | true =>
    obtain ⟨rfl, rfl⟩ := run_done_iff.1 hrest
    exact ⟨rfl, .inl rfl⟩
  | false =>
    rcases run_bind_iff.1 hrest with ⟨answer, es₁, es₂, rfl, hread, hlook⟩ | ⟨_, -, hread⟩
    · obtain ⟨reply, rfl, ⟨⟩⟩ := run_verifyRevision_iff.1 hread
      obtain ⟨after, last, rfl, hlast⟩ := run_call_bind_iff.1 hlook
      cases after with
      | true =>
        obtain ⟨rfl, rfl⟩ := run_done_iff.1 hlast
        exact ⟨rfl, .inl rfl⟩
      | false =>
        obtain ⟨rfl, rfl⟩ := run_done_iff.1 hlast
        exact ⟨rfl, .inr ⟨reply, rfl⟩⟩
    · obtain ⟨_, -, ⟨⟩⟩ := run_verifyRevision_iff.1 hread

/-- A look and then a check that may be cut short. If it is, the look might have noticed the signal
instead. -/
theorem Program.Matched.look_check {β : Type} {S : β → β → Prop} {a b c : β}
    {f g : Option (Except Failure Unit) → Program β} (hlook : S a b) (hcut : f none = .done c)
    (hnone : S c b) (hsome : ∀ verdict, Matched S (f (some verdict)) (g (some verdict))) :
    Matched S
      (.call .stopping >>= fun stopped =>
        if stopped = true then .done a else Verifier.interruptible.check w id p >>= f)
      (.call .stopping >>= fun stopped =>
        if stopped = true then .done b else Verifier.revision.check w id p >>= g) := by
  intro es e hrun
  obtain ⟨stopped, rest, rfl, hrest⟩ := run_call_bind_iff.1 hrun
  have hnoticed : Run (.call .stopping >>= fun stopped =>
      if stopped = true then .done b else Verifier.revision.check w id p >>= g)
      [⟨.stopping, true⟩] (.ok b) := run_call_bind_iff.2 ⟨true, [], rfl, .done b⟩
  cases stopped with
  | true =>
    obtain ⟨rfl, rfl⟩ := run_done_iff.1 hrest
    exact ⟨_, _, hnoticed, .ok hlook, rfl⟩
  | false =>
    rcases run_bind_iff.1 hrest with ⟨answer, es₁, es₂, rfl, hcheck, hnext⟩ | ⟨h, -, hcheck⟩
    · obtain ⟨hacts, hanswer⟩ := run_checkInterruptible hcheck
      rw [acts_stopping, acts_append, hacts, List.nil_append]
      rcases hanswer with ⟨⟨⟩⟩ | ⟨reply, ⟨⟩⟩
      · rw [hcut] at hnext
        obtain ⟨rfl, rfl⟩ := run_done_iff.1 hnext
        exact ⟨_, _, hnoticed, .ok hnone, rfl⟩
      · obtain ⟨fs, e', hg, halike, hsame⟩ := hsome _ es₂ e hnext
        refine ⟨⟨.stopping, false⟩ :: ⟨.get id, reply⟩ :: fs, e', ?_, halike, ?_⟩
        case refine_2 => rw [acts_stopping, acts_get, hsame]
        have hread : Run (Verifier.revision.check w id p) [⟨.get id, reply⟩]
            (.ok (some (judged w.updateRevision id p reply))) :=
          run_checkRevision_iff.2 ⟨reply, rfl, rfl⟩
        exact run_call_bind_iff.2 ⟨false, _, rfl, run_bind_iff.2 (.inl ⟨_, _, fs, rfl, hread, hg⟩)⟩
    · obtain ⟨-, hanswer⟩ := run_checkInterruptible hcheck
      rcases hanswer with hanswer | ⟨_, hanswer⟩ <;> cases hanswer

/-- Two polls end alike, or the signal stopped both, whatever they have counted. -/
def PollAlike (r r' : Except PollError UInt32) : Prop :=
  r = r' ∨ ∃ m n, r = .error (.cancelled m) ∧ r' = .error (.cancelled n)

theorem matched_pollFrom {b : Backoff} {start interval : TimeSpan} {rounds : Nat} {n : UInt32} :
    Matched PollAlike
      (pollFrom b (Verifier.interruptible.check w id p) start rounds interval n)
      (pollFrom b (Verifier.revision.check w id p) start rounds interval n) := by
  induction rounds generalizing interval n with
  | zero => exact .same fun _ => .inl rfl
  | succ rounds ih =>
    rw [pollFrom, pollFrom]
    refine .look_check (.inl rfl) rfl (.inr ⟨n + 1, n, rfl, rfl⟩) ?_
    rintro (last | _)
    · refine .bind_same fun now => .bind_same fun wait => .bind_same fun reach => ?_
      split
      · exact .same fun _ => .inl rfl
      refine .bind_same fun stopped => ?_
      split
      · exact .same fun _ => .inl rfl
      · exact .bind_same fun next => ih
    · exact .same fun _ => .inl rfl

theorem matched_poll {b : Backoff} {rounds : Nat} :
    Matched PollAlike (poll rounds b (Verifier.interruptible.check w id p))
      (poll rounds b (Verifier.revision.check w id p)) :=
  .bind_same fun _ => matched_pollFrom

end

/-! ## Rollouts -/

section

variable {g : Gates} {id : WorkloadId} {retry : ConflictRetry} {jitter : Bool} {rounds : Nat}

theorem matched_updateOrdinal {working : WorkloadSet} {p : UInt32} :
    Matched Eq
      ((⟨.interruptible, retry, jitter, rounds⟩ : Strategy).updateOrdinal g id working p)
      ((⟨.revision, retry, jitter, rounds⟩ : Strategy).updateOrdinal g id working p) := by
  rw [Strategy.updateOrdinal, Strategy.updateOrdinal]
  refine .bind_same ?_
  rintro (cause | _)
  · exact .same fun _ => rfl
  refine .bind_same ?_
  rintro (cause | stored)
  · exact .same fun _ => rfl
  refine .bind matched_poll ?_
  -- How many checks a poll that was stopped had counted is forgotten.
  rintro r _ (rfl | ⟨m, n, rfl, rfl⟩) <;> exact .same fun _ => rfl

theorem matched_walk {count : Nat} {working : WorkloadSet} {skipSleep : Bool} :
    Matched Eq
      ((⟨.interruptible, retry, jitter, rounds⟩ : Strategy).walk g id count working skipSleep)
      ((⟨.revision, retry, jitter, rounds⟩ : Strategy).walk g id count working skipSleep) := by
  induction count generalizing working skipSleep with
  | zero => exact .same fun _ => rfl
  | succ count ih =>
    rw [Strategy.walk, Strategy.walk]
    refine .bind_same fun stopped => ?_
    split
    · exact .same fun _ => rfl
    refine .bind_same ?_
    rintro (cause | _)
    · refine .bind matched_updateOrdinal ?_
      rintro ⟨latest, cause | _⟩ _ rfl
      · exact .same fun _ => rfl
      · exact ih
    · exact ih

/-- **A check that is cut short changes nothing.** Every rollout in which the signal may cut checks
short is matched by one in which it does not: with the same outcome, and the same calls but for
looks and reads. -/
theorem run_rollOutSuite_interruptible
    {transform : WorkloadSet → Program (Except Failure WorkloadSet)} {es : List Exchange} {e : Ending Outcome}
    (h : Run (rollOutSuite g ⟨transform, ⟨.interruptible, retry, jitter, rounds⟩⟩ id) es e) :
    ∃ fs, Run (rollOutSuite g ⟨transform, ⟨.revision, retry, jitter, rounds⟩⟩ id) fs e ∧
      acts fs = acts es := by
  have hmatched : Matched Eq
      (rollOutSuite g ⟨transform, ⟨.interruptible, retry, jitter, rounds⟩⟩ id)
      (rollOutSuite g ⟨transform, ⟨.revision, retry, jitter, rounds⟩⟩ id) := by
    refine .bind_same ?_
    rintro (cause | current)
    · exact .same fun _ => rfl
    refine .bind_same ?_
    rintro (cause | desired)
    · exact .same fun _ => rfl
    refine .bind matched_walk ?_
    rintro ⟨latest, o⟩ _ rfl
    exact .same fun _ => rfl
  obtain ⟨fs, f, hrun, halike, hacts⟩ := hmatched es e h
  obtain rfl : e = f := by
    cases halike with
    | ok heq => rw [heq]
    | error h => rfl
  exact ⟨fs, hrun, hacts⟩

end

end PartitionedRollout
