/-
# PartitionedRollout.Proofs.Rollout.Handler -- collaborators as requests and as programs

A rollout with a verifier or with gates of this library is a rollout that asks outside ones, with
each question answered by the program of the collaborator in its place. So a statement about all
replies of outside collaborators is one about every collaborator: the runs with a program in place
of a request are expansions of the runs that make the request.
-/

import PartitionedRollout.Proofs.Rollout.Run
import PartitionedRollout.Rollout.Controller

namespace PartitionedRollout

namespace Program

variable {α β : Type}

/-- The program with its requests answered by other programs. -/
def handle (f : (r : Request) → Program r.Reply) : Program α → Program α
  | done a => done a
  | halt h => halt h
  | ask r next => f r >>= fun x => (next x).handle f

variable (f : (r : Request) → Program r.Reply)

@[simp]
theorem handle_done (a : α) : (done a).handle f = done a :=
  rfl

@[simp]
theorem handle_halt (h : Halt) : (halt h : Program α).handle f = halt h :=
  rfl

@[simp]
theorem handle_call (r : Request) : (call r).handle f = f r :=
  bind_done (f r)

@[simp]
theorem handle_ofOption (o : Option α) : (ofOption o).handle f = ofOption o := by
  cases o <;> rfl

@[simp]
theorem handle_bind (p : Program α) (g : α → Program β) :
    (p >>= g).handle f = p.handle f >>= fun a => (g a).handle f := by
  induction p with
  | done => rfl
  | halt => rfl
  | ask r next ih =>
    simp only [ask_bind, handle, ih, bind_assoc]

/-- Exchanges of programs that answer the requests of a list of exchanges, in this order. -/
inductive Expands : List Exchange → List Exchange → Prop where
  | nil : Expands [] []
  | cons {r : Request} {x : r.Reply} {es₁ es₂ calls : List Exchange} (head : Run (f r) es₁ (.ok x))
      (tail : Expands calls es₂) : Expands (⟨r, x⟩ :: calls) (es₁ ++ es₂)

variable {f}

/-- A sequence is handled part by part. -/
theorem handle_bind_congr {p p' : Program α} {g g' : α → Program β} (hp : p.handle f = p')
    (hg : ∀ a, (g a).handle f = g' a) : (p >>= g).handle f = p' >>= g' := by
  rw [handle_bind, hp]
  exact bind_congr hg

/-- A request that is answered by one exchange. -/
theorem Expands.cons_one {r : Request} {x : r.Reply} {y : Exchange} {calls es : List Exchange}
    (head : Run (f r) [y] (.ok x)) (tail : Expands f calls es) :
    Expands f (⟨r, x⟩ :: calls) (y :: es) :=
  .cons head tail

/-- A request that is left alone. -/
theorem Expands.cons_call {r : Request} {x : r.Reply} {calls es : List Exchange}
    (hr : f r = call r) (tail : Expands f calls es) :
    Expands f (⟨r, x⟩ :: calls) (⟨r, x⟩ :: es) :=
  .cons_one (hr ▸ run_call_iff.2 ⟨x, rfl, rfl⟩) tail

/-- If no answer halts, the runs of a handled program are the expansions of its own runs. -/
theorem run_handle_iff (hf : ∀ r es h, ¬ Run (f r) es (.error h)) {p : Program α}
    {es : List Exchange} {e : Ending α} :
    Run (p.handle f) es e ↔ ∃ calls, Run p calls e ∧ Expands f calls es := by
  induction p generalizing es with
  | done a =>
    rw [handle_done, run_done_iff]
    constructor
    · rintro ⟨rfl, rfl⟩
      exact ⟨[], .done a, .nil⟩
    · rintro ⟨calls, hrun, hexpands⟩
      obtain ⟨rfl, rfl⟩ := run_done_iff.1 hrun
      cases hexpands
      exact ⟨rfl, rfl⟩
  | halt h =>
    rw [handle_halt, run_halt_iff]
    constructor
    · rintro ⟨rfl, rfl⟩
      exact ⟨[], .halt h, .nil⟩
    · rintro ⟨calls, hrun, hexpands⟩
      obtain ⟨rfl, rfl⟩ := run_halt_iff.1 hrun
      cases hexpands
      exact ⟨rfl, rfl⟩
  | ask r next ih =>
    -- The answer to the first request comes first, and it never halts.
    rw [handle, run_bind_iff]
    constructor
    · rintro (⟨x, es₁, es₂, rfl, hx, hrest⟩ | ⟨h, -, hx⟩)
      · obtain ⟨calls, hrun, hexpands⟩ := (ih x).1 hrest
        exact ⟨⟨r, x⟩ :: calls, .ask x hrun, .cons hx hexpands⟩
      · exact absurd hx (hf r es h)
    · rintro ⟨calls, hrun, hexpands⟩
      obtain ⟨x, rest, rfl, hnext⟩ := run_ask_iff.1 hrun
      cases hexpands with
      | @cons _ _ es₁ es₂ _ head tail =>
        exact .inl ⟨x, es₁, es₂, rfl, head, (ih x).2 ⟨rest, hnext, tail⟩⟩

end Program

open Program

/-! ## Collaborators -/

/-- A request that no verifier and no gate is asked. -/
def Request.isDirect : Request → Bool
  | .verify _ _ => false
  | .check _ _ => false
  | .awaitReady => false
  | .probeHealth _ _ => false
  | _ => true

/-- Every such request is left alone. -/
def Program.Transparent (f : (r : Request) → Program r.Reply) : Prop :=
  ∀ r, r.isDirect = true → f r = .call r

section

variable {f : (r : Request) → Program r.Reply}

theorem handle_direct (hf : Transparent f) {r : Request} (hr : r.isDirect = true) :
    (call r).handle f = call r :=
  (handle_call f r).trans (hf r hr)

theorem handle_wait (hf : Transparent f) (b : Backoff) (interval : TimeSpan) :
    (b.wait interval).handle f = b.wait interval := by
  unfold Backoff.wait
  split
  · rfl
  split
  · rfl
  split
  · refine handle_bind_congr (handle_direct hf rfl) ?_
    intro drawn
    exact handle_bind_congr (handle_ofOption _ _) fun _ => rfl
  · rfl

theorem handle_pollFrom (hf : Transparent f) (b : Backoff)
    (check : Program (Option (Except Failure Unit))) (start : TimeSpan) (rounds : Nat)
    (interval : TimeSpan) (attempts : UInt32) :
    (pollFrom b check start rounds interval attempts).handle f =
      pollFrom b (check.handle f) start rounds interval attempts := by
  induction rounds generalizing interval attempts with
  | zero => rfl
  | succ rounds ih =>
    rw [pollFrom, pollFrom]
    refine handle_bind_congr (handle_direct hf rfl) ?_
    rintro (_ | _)
    · refine handle_bind_congr rfl ?_
      rintro (_ | cause | _)
      · rfl
      · refine handle_bind_congr (handle_direct hf rfl) fun now => ?_
        refine handle_bind_congr (handle_wait hf b interval) fun wait => ?_
        refine handle_bind_congr (handle_ofOption _ _) fun reach => ?_
        split
        · rfl
        refine handle_bind_congr (handle_direct hf rfl) ?_
        rintro (_ | _)
        · exact handle_bind_congr (handle_ofOption _ _) fun next => ih next _
        · rfl
      · rfl
    · rfl

theorem handle_poll (hf : Transparent f) (rounds : Nat) (b : Backoff)
    (check : Program (Option (Except Failure Unit))) :
    (poll rounds b check).handle f = poll rounds b (check.handle f) :=
  handle_bind_congr (handle_direct hf rfl) fun start =>
    handle_pollFrom hf b check start rounds _ _

theorem handle_updateWithin (hf : Transparent f) (id : WorkloadId) (partition : UInt32)
    (interval : TimeSpan) (change : WorkloadSet → WorkloadSet) (retries : Nat)
    (candidate : WorkloadSet) :
    (updateWithin id partition interval change retries candidate).handle f =
      updateWithin id partition interval change retries candidate := by
  induction retries generalizing candidate with
  | zero =>
    rw [updateWithin]
    refine handle_bind_congr (handle_direct hf rfl) ?_
    rintro (cause | stored) <;> rfl
  | succ retries ih =>
    rw [updateWithin]
    refine handle_bind_congr (handle_direct hf rfl) ?_
    rintro (cause | stored)
    · simp only
      split
      · rfl
      refine handle_bind_congr (handle_direct hf rfl) ?_
      rintro (_ | _)
      · refine handle_bind_congr (handle_direct hf rfl) ?_
        rintro (cause | latest)
        · rfl
        · exact ih _
      · rfl
    · rfl

end

/-- Answer the questions to a verifier and to gates by a verifier and by gates, and leave every
other request alone. -/
def Gates.answers (g : Gates) (v : Verifier) (id : WorkloadId) : (r : Request) → Program r.Reply
  | .verify p desired => v.verify desired id p
  | .check p desired => v.check desired id p
  | .awaitReady => g.awaitReady
  | .probeHealth checkpoint p => g.probeHealth checkpoint p
  | r => .call r

/-- Answer the questions to a verifier by a verifier, and leave every other request alone. -/
def Verifier.answers (v : Verifier) (id : WorkloadId) : (r : Request) → Program r.Reply
  | .verify p desired => v.verify desired id p
  | .check p desired => v.check desired id p
  | r => .call r

theorem Verifier.answers_eq (v : Verifier) (id : WorkloadId) (timing : Timing) :
    v.answers id = (Gates.external timing).answers v id := by
  funext r
  cases r <;> rfl

section

variable (g : Gates) (v : Verifier) (id : WorkloadId) (retry : ConflictRetry) (jitter : Bool)
  (rounds : Nat)

theorem Gates.transparent_answers : Transparent (g.answers v id) := by
  intro r hr
  cases r <;> first | rfl | cases hr

theorem handle_updateOrdinal (working : WorkloadSet) (p : UInt32) :
    ((⟨.external, retry, jitter, rounds⟩ : Strategy).updateOrdinal (.external g.timing) id working
        p).handle (g.answers v id) =
      (⟨v, retry, jitter, rounds⟩ : Strategy).updateOrdinal g id working p := by
  have hf := g.transparent_answers v id
  rw [Strategy.updateOrdinal, Strategy.updateOrdinal]
  refine handle_bind_congr (handle_call _ _) ?_
  rintro (cause | _)
  · rfl
  refine handle_bind_congr (handle_updateWithin hf id p _ _ _ _) ?_
  rintro (cause | stored)
  · rfl
  have hcheck : (Verifier.external.check (working.withPartition p) id p).handle (g.answers v id) =
      v.check (working.withPartition p) id p :=
    handle_call _ _
  refine handle_bind_congr (hcheck ▸ handle_poll hf rounds _ _) ?_
  rintro (⟨⟨attempts, elapsed, last⟩ | attempts⟩ | n)
  · rfl
  · rfl
  refine handle_bind_congr (handle_call _ _) ?_
  rintro (cause | latest)
  · rfl
  refine handle_bind_congr (handle_call _ _) ?_
  rintro (cause | _) <;> rfl

/-- Walking with collaborators of this library is walking with outside ones that are answered by
them. -/
theorem handle_walk (count : Nat) (working : WorkloadSet) (skipSleep : Bool) :
    ((⟨.external, retry, jitter, rounds⟩ : Strategy).walk (.external g.timing) id count working
        skipSleep).handle (g.answers v id) =
      (⟨v, retry, jitter, rounds⟩ : Strategy).walk g id count working skipSleep := by
  induction count generalizing working skipSleep with
  | zero => rfl
  | succ count ih =>
    rw [Strategy.walk, Strategy.walk]
    refine handle_bind_congr (handle_call _ _) ?_
    rintro (_ | _)
    · refine handle_bind_congr (handle_call _ _) ?_
      rintro (cause | _)
      · refine handle_bind_congr (handle_updateOrdinal g v id retry jitter rounds _ _) ?_
        rintro ⟨latest, cause | _⟩
        · rfl
        · exact ih _ _
      · exact ih _ _
    · rfl

/-- So is rolling out a suite. -/
theorem Gates.handle_rollOutSuite :
    (rollOutSuite (.external g.timing) ⟨externalTransform, ⟨.external, retry, jitter, rounds⟩⟩
        id).handle (g.answers v id) =
      rollOutSuite g ⟨externalTransform, ⟨v, retry, jitter, rounds⟩⟩ id := by
  rw [rollOutSuite, rollOutSuite]
  refine handle_bind_congr (handle_call _ _) ?_
  rintro (cause | current)
  · rfl
  refine handle_bind_congr (handle_call _ _) ?_
  rintro (cause | desired)
  · rfl
  refine handle_bind_congr (handle_walk g v id retry jitter rounds _ _ _) ?_
  rintro ⟨latest, skipSleep, cause | _⟩ <;> rfl

/-- In particular with gates outside this library. -/
theorem handle_rollOutSuite (timing : Timing) :
    (rollOutSuite (.external timing) ⟨externalTransform, ⟨.external, retry, jitter, rounds⟩⟩
        id).handle (v.answers id) =
      rollOutSuite (.external timing) ⟨externalTransform, ⟨v, retry, jitter, rounds⟩⟩ id := by
  rw [v.answers_eq id timing]
  exact (Gates.external timing).handle_rollOutSuite v id retry jitter rounds

end

/-! ## The verifier that compares revisions -/

/-- What a reading of the set says about a revision that a replica should run. -/
def judged (want : String) (id : WorkloadId) (p : UInt32) :
    Except StoreError WorkloadSet → Except Failure Unit
  | .error e => .error ⟨s!"reading {id} to verify ordinal {p}", [e.message]⟩
  | .ok latest => latest.status.converged id want p

theorem judged_eq_ok_iff {want : String} {id : WorkloadId} {p : UInt32}
    {reply : Except StoreError WorkloadSet} :
    judged want id p reply = .ok () ↔
      ∃ latest, reply = .ok latest ∧ latest.status.converged id want p = .ok () := by
  cases reply <;> simp [judged]

/-- A verification reads the set once and judges what it finds. -/
theorem run_verifyRevision_iff {want : String} {id : WorkloadId} {p : UInt32} {es : List Exchange}
    {e : Ending (Except Failure Unit)} :
    Run (verifyRevision want id p) es e ↔
      ∃ reply, es = [⟨.get id, reply⟩] ∧ e = .ok (judged want id p reply) := by
  rw [verifyRevision, run_call_bind_iff]
  constructor
  · rintro ⟨reply, rest, rfl, h⟩
    cases reply <;>
    · obtain ⟨rfl, rfl⟩ := run_done_iff.1 h
      exact ⟨_, rfl, rfl⟩
  · rintro ⟨reply, rfl, rfl⟩
    cases reply <;> exact ⟨_, [], rfl, .done _⟩

theorem run_verifyRevision (want : String) (id : WorkloadId) (p : UInt32) (latest : WorkloadSet) :
    Run (verifyRevision want id p) [⟨.get id, .ok latest⟩]
      (.ok (latest.status.converged id want p)) :=
  run_verifyRevision_iff.2 ⟨.ok latest, rfl, rfl⟩

/-- A check makes the same reading as a verification. -/
theorem run_checkRevision_iff {want : String} {id : WorkloadId} {p : UInt32} {es : List Exchange}
    {e : Ending (Option (Except Failure Unit))} :
    Run (some <$> verifyRevision want id p) es e ↔
      ∃ reply, es = [⟨.get id, reply⟩] ∧ e = .ok (some (judged want id p reply)) := by
  rw [map_eq_pure_bind, run_bind_iff]
  simp only [run_verifyRevision_iff]
  constructor
  · rintro (⟨_, _, _, rfl, ⟨reply, rfl, ⟨⟩⟩, h⟩ | ⟨_, -, _, -, ⟨⟩⟩)
    obtain ⟨rfl, rfl⟩ := run_done_iff.1 h
    exact ⟨reply, rfl, rfl⟩
  · rintro ⟨reply, rfl, rfl⟩
    exact .inl ⟨_, [⟨.get id, reply⟩], [], rfl, ⟨reply, rfl, rfl⟩, .done _⟩

/-- The verifier that compares revisions never halts. -/
theorem revision_answers_halt (id : WorkloadId) (r : Request) (es : List Exchange) (h : Halt) :
    ¬ Run (Verifier.revision.answers id r) es (.error h) := by
  intro hrun
  cases r with
  | verify p desired =>
    obtain ⟨_, -, h⟩ := run_verifyRevision_iff.1 hrun
    cases h
  | check p desired =>
    obtain ⟨_, -, h⟩ := run_checkRevision_iff.1 hrun
    cases h
  | _ =>
    obtain ⟨_, -, h⟩ := run_call_iff.1 hrun
    cases h

/-- The exchange in place of one, when the verifier compares revisions: a question to the verifier
is a reading of the set. -/
def Program.Exchange.Answered (id : WorkloadId) : Exchange → Exchange → Prop
  | ⟨.verify p w, verdict⟩, y =>
    ∃ reply, y = ⟨.get id, reply⟩ ∧ verdict = judged w.updateRevision id p reply
  | ⟨.check p w, verdict⟩, y =>
    ∃ reply, y = ⟨.get id, reply⟩ ∧ verdict = some (judged w.updateRevision id p reply)
  | x, y => y = x

/-- Every request is answered by a single exchange. -/
theorem run_revision_answers {id : WorkloadId} {r : Request} {x : r.Reply} {es : List Exchange}
    (h : Run (Verifier.revision.answers id r) es (.ok x)) :
    ∃ y, es = [y] ∧ Exchange.Answered id ⟨r, x⟩ y := by
  cases r with
  | verify p desired =>
    obtain ⟨reply, rfl, ⟨⟩⟩ := run_verifyRevision_iff.1 h
    exact ⟨_, rfl, reply, rfl, rfl⟩
  | check p desired =>
    obtain ⟨reply, rfl, ⟨⟩⟩ := run_checkRevision_iff.1 h
    exact ⟨_, rfl, reply, rfl, rfl⟩
  | _ =>
    obtain ⟨_, rfl, ⟨⟩⟩ := run_call_iff.1 h
    exact ⟨_, rfl, rfl⟩

theorem expands_revision_cons {id : WorkloadId} {x : Exchange} {calls es : List Exchange}
    (h : Expands (Verifier.revision.answers id) (x :: calls) es) :
    ∃ y rest, es = y :: rest ∧ x.Answered id y ∧
      Expands (Verifier.revision.answers id) calls rest := by
  cases h with
  | cons head tail =>
    obtain ⟨y, rfl, hy⟩ := run_revision_answers head
    exact ⟨y, _, rfl, hy, tail⟩

end PartitionedRollout
