/-
# PartitionedRollout.Proofs.Rollout.Stops -- what stops a rollout, and what it reports

A rollout that fails was stopped at one point of the protocol: by the reply to its last call, or,
when a poll has run out of time, before a further one. `Stop` lists these points together with the
errors that they are reported as, and `run_rollOut_failed` shows that a rollout fails in no other
way. The wrappers that an error passes through on its way out are opened there and nowhere else;
what an error says about a run is read off the list.
-/

import PartitionedRollout.Proofs.Rollout.Protocol

namespace PartitionedRollout

open Program

/-! ## Stops -/

/-- A rollout is stopped at a stage by its last call, or by none when a poll has run out of time,
and reports an error. -/
inductive Stop (policy : ConflictRetry) (id : WorkloadId) :
    Stage → List Exchange → RolloutError → Prop where
  | interrupt {p : Nat} {w : WorkloadSet} :
      Stop policy id (.between (p + 1) w) [⟨.stopping, true⟩] (.cancelled (.ofNat p))
  | unready {p : Nat} {w : WorkloadSet} {cause : Failure} :
      Stop policy id (.outdated p w) [⟨.awaitReady, .error cause⟩] (.readinessWait (.ofNat p) cause)
  | reject {p n : Nat} {w base : WorkloadSet} {e : StoreError} :
      Stop policy id (.ready p w n base) [⟨.update (candidate p w base), .error e⟩]
        (.atOrdinal (.ofNat p) (.ofStore id e))
  | rouse {p n : Nat} {w : WorkloadSet} :
      Stop policy id (.refused p w n) [⟨.sleep policy.interval, true⟩] (.cancelled (.ofNat p))
  | lose {p n : Nat} {w : WorkloadSet} {e : StoreError} :
      Stop policy id (.rested p w n) [⟨.get id, .error e⟩] (.atOrdinal (.ofNat p) (.ofStore id e))
  | giveUp {p : Nat} {w : WorkloadSet} :
      Stop policy id (.polling .signal p w) [⟨.stopping, true⟩] (.cancelled (.ofNat p))
  | cut {p : Nat} {w : WorkloadSet} :
      Stop policy id (.polling .check p w) [⟨.check (.ofNat p) w, none⟩] (.cancelled (.ofNat p))
  | expire {p : Nat} {w : WorkloadSet} {phase : PollPhase} {attempts : UInt32} {elapsed : TimeSpan}
      {last : Failure} (h : phase = .spacing ∨ phase = .pause) :
      Stop policy id (.polling phase p w) [] (.verificationTimeout (.ofNat p) attempts elapsed last)
  | wake {p : Nat} {w : WorkloadSet} {phase : PollPhase} {d : TimeSpan} :
      Stop policy id (.polling phase p w) [⟨.sleep d, true⟩] (.cancelled (.ofNat p))
  | vanish {p : Nat} {w : WorkloadSet} {e : StoreError} :
      Stop policy id (.converged p w) [⟨.get id, .error e⟩] (.atOrdinal (.ofNat p) (.ofStore id e))
  | sicken {p : Nat} {w : WorkloadSet} {cause : Failure} :
      Stop policy id (.reread p w)
        [⟨.probeHealth (Strategy.checkpoint id) (.ofNat p), .error cause⟩]
        (.healthProbe (Strategy.checkpoint id) (.ofNat p) cause)

/-- Calls that lead from a stage to a stop. -/
def Stops (policy : ConflictRetry) (id : WorkloadId) (s : Stage) (es : List Exchange)
    (cause : RolloutError) : Prop :=
  ∃ pre last u, es = pre ++ last ∧ Moves policy id s pre u ∧ Stop policy id u last cause

/-! ## Programs that account for their errors -/

/-- From a stage on, a run of a program that ends in a value is a row of moves to a stage that
`post` allows, or it was stopped and its value carries the error, as `fault` says. -/
def Accounted (policy : ConflictRetry) (id : WorkloadId) {α : Type} (s : Stage) (m : Program α)
    (post : α → Stage → Prop) (fault : α → RolloutError → Prop) : Prop :=
  ∀ es a, Run m es (.ok a) →
    (∃ t, Moves policy id s es t ∧ post a t) ∨ ∃ cause, fault a cause ∧ Stops policy id s es cause

namespace Accounted

variable {policy : ConflictRetry} {id : WorkloadId} {α β : Type} {s : Stage}
  {post : β → Stage → Prop} {fault : β → RolloutError → Prop}

theorem done {b : β} (h : post b s) : Accounted policy id s (.done b) post fault := by
  intro es a hrun
  obtain ⟨rfl, ha⟩ := run_done_iff.1 hrun
  obtain rfl := Except.ok.inj ha
  exact .inl ⟨s, .nil, h⟩

/-- A stop without a further call. -/
theorem stop {b : β} {cause : RolloutError} (hb : fault b cause) (hs : Stop policy id s [] cause) :
    Accounted policy id s (.done b) post fault := by
  intro es a hrun
  obtain ⟨rfl, ha⟩ := run_done_iff.1 hrun
  obtain rfl := Except.ok.inj ha
  exact .inr ⟨cause, hb, [], [], s, rfl, .nil, hs⟩

theorem halt {h : Halt} : Accounted policy id s (.halt h) post fault := by
  intro es a hrun
  cases (run_halt_iff.1 hrun).2

/-- A reply leads on, or it stops the program. -/
theorem call {r : Request} {f : r.Reply → Program β}
    (h : ∀ x, (∃ t, Move policy id s ⟨r, x⟩ t ∧ Accounted policy id t (f x) post fault) ∨
      ∃ b cause, f x = .done b ∧ fault b cause ∧ Stop policy id s [⟨r, x⟩] cause) :
    Accounted policy id s (.call r >>= f) post fault := by
  intro es a hrun
  obtain ⟨x, rest, rfl, hrest⟩ := run_call_bind_iff.1 hrun
  rcases h x with ⟨t, hmove, haccounted⟩ | ⟨b, cause, hdone, hb, hs⟩
  · rcases haccounted rest a hrest with ⟨u, hmoves, hpost⟩ | ⟨cause, ha, pre, last, u, rfl, hm, hs⟩
    · exact .inl ⟨u, .cons hmove hmoves, hpost⟩
    · exact .inr ⟨cause, ha, ⟨r, x⟩ :: pre, last, u, rfl, .cons hmove hm, hs⟩
  · rw [hdone] at hrest
    obtain ⟨rfl, ha⟩ := run_done_iff.1 hrest
    obtain rfl := Except.ok.inj ha
    exact .inr ⟨cause, hb, [], _, s, rfl, .nil, hs⟩

/-- An error of the first part is passed on without a further call. -/
theorem bind {m : Program α} {f : α → Program β} {mid : α → Stage → Prop}
    {inner : α → RolloutError → Prop} (hm : Accounted policy id s m mid inner)
    (hf : ∀ a t, mid a t → Accounted policy id t (f a) post fault)
    (hfault : ∀ a cause, inner a cause → ∃ b, f a = .done b ∧ fault b cause) :
    Accounted policy id s (m >>= f) post fault := by
  intro es b hrun
  rcases run_bind_iff.1 hrun with ⟨a, es₁, es₂, rfl, hfirst, hsecond⟩ | ⟨h, ⟨⟩, -⟩
  rcases hm es₁ a hfirst with ⟨t, hmoves, hmid⟩ | ⟨cause, ha, hstops⟩
  · rcases hf a t hmid es₂ b hsecond with ⟨u, hrest, hpost⟩ | ⟨cause, hb, pre, last, u, rfl, hp, hs⟩
    · exact .inl ⟨u, hmoves.append hrest, hpost⟩
    · exact .inr ⟨cause, hb, es₁ ++ pre, last, u, by simp, hmoves.append hp, hs⟩
  · obtain ⟨c, hdone, hc⟩ := hfault a cause ha
    rw [hdone] at hsecond
    obtain ⟨rfl, hb⟩ := run_done_iff.1 hsecond
    obtain rfl := Except.ok.inj hb
    exact .inr ⟨cause, hc, by rwa [List.append_nil]⟩

theorem ofOption {o : Option α} {f : α → Program β}
    (h : ∀ a, o = some a → Accounted policy id s (f a) post fault) :
    Accounted policy id s (.ofOption o >>= f) post fault := by
  cases o with
  | none => exact halt
  | some a => exact h a rfl

/-- A program that follows the protocol and has no errors. -/
theorem of_guided {m : Program β} (h : Guided policy id s m post) :
    Accounted policy id s m post fun _ _ => False := by
  intro es b hrun
  obtain ⟨t, hmoves, hpost⟩ := h es _ hrun
  exact .inl ⟨t, hmoves, hpost b rfl⟩

end Accounted

/-- What an unsuccessful poll of an ordinal is reported as. -/
def PollError.reported (p : UInt32) : PollError → RolloutError
  | .timedOut attempts elapsed last => .verificationTimeout p attempts elapsed last
  | .cancelled _ => .cancelled p

section

variable {policy : ConflictRetry} {id : WorkloadId}

theorem accounted_updateWithin {p n : Nat} {w base : WorkloadSet} :
    Accounted policy id (.ready p w n base)
      (updateWithin id (.ofNat p) policy.interval (·.withTemplate w.spec.template) n
        (candidate p w base))
      (fun r t => (∃ stored, r = .ok stored) ∧ t = .polling .opening p w)
      fun r cause => ∃ e, r = .error e ∧ cause = e.addOrdinal (.ofNat p) := by
  induction n generalizing base with
  | zero =>
    rw [updateWithin]
    refine .call ?_
    rintro (e | stored)
    · exact .inr ⟨_, _, rfl, ⟨_, rfl, rfl⟩, .reject⟩
    · exact .inl ⟨_, .persist, .done ⟨⟨stored, rfl⟩, rfl⟩⟩
  | succ n ih =>
    rw [updateWithin]
    refine .call ?_
    rintro (e | stored)
    · cases he : e.isConflict with
      | false =>
        refine .inr ⟨.error (.ofStore id e), _, ?_, ⟨_, rfl, rfl⟩, .reject⟩
        simp [he]
      | true =>
        refine .inl ⟨_, .conflict he, ?_⟩
        simp only [he, Bool.not_true, Bool.false_eq_true, if_false]
        refine .call ?_
        rintro (_ | _)
        · refine .inl ⟨_, .rest, .call ?_⟩
          rintro (e | latest)
          · exact .inr ⟨_, _, rfl, ⟨_, rfl, rfl⟩, .lose⟩
          · exact .inl ⟨_, .retry, ih⟩
        · exact .inr ⟨_, _, rfl, ⟨_, rfl, rfl⟩, .rouse⟩
    · exact .inl ⟨_, .persist, .done ⟨⟨stored, rfl⟩, rfl⟩⟩

theorem accounted_pollFrom {b : Backoff} {p rounds : Nat} {w : WorkloadSet}
    {start interval : TimeSpan} {attempts : UInt32} :
    Accounted policy id (.polling .signal p w)
      (pollFrom b (.call (.check (.ofNat p) w)) start rounds interval attempts)
      (fun r t => (∃ n, r = .ok n) ∧ t = .converged p w)
      fun r cause => ∃ e, r = .error e ∧ cause = e.reported (.ofNat p) := by
  induction rounds generalizing interval attempts with
  | zero => exact .halt
  | succ rounds ih =>
    rw [pollFrom]
    refine .call ?_
    rintro (_ | _)
    · refine .inl ⟨_, .goOn, .call ?_⟩
      rintro (_ | cause | _)
      · exact .inr ⟨_, _, rfl, ⟨_, rfl, rfl⟩, .cut⟩
      · refine .inl ⟨_, .miss, .call fun now => .inl ⟨_, .measure, ?_⟩⟩
        -- The wait has no errors of its own; without time left, the poll ends before it.
        refine .bind (.of_guided guided_wait) ?_ (by simp)
        rintro wait t ⟨phase, hphase, rfl⟩
        refine .ofOption ?_
        intro reach _
        split
        · exact .stop ⟨_, rfl, rfl⟩ (.expire hphase)
        refine .call ?_
        rintro (_ | _)
        · exact .inl ⟨_, .pause hphase, .ofOption fun _ _ => ih⟩
        · exact .inr ⟨_, _, rfl, ⟨_, rfl, rfl⟩, .wake⟩
      · exact .inl ⟨_, .hit, .done ⟨⟨_, rfl⟩, rfl⟩⟩
    · exact .inr ⟨_, _, rfl, ⟨_, rfl, rfl⟩, .giveUp⟩

theorem accounted_poll {b : Backoff} {p rounds : Nat} {w : WorkloadSet} :
    Accounted policy id (.polling .opening p w) (poll rounds b (.call (.check (.ofNat p) w)))
      (fun r t => (∃ n, r = .ok n) ∧ t = .converged p w)
      fun r cause => ∃ e, r = .error e ∧ cause = e.reported (.ofNat p) :=
  .call fun _ => .inl ⟨_, .start, accounted_pollFrom⟩

theorem accounted_updateOrdinal {s : Strategy} {timing : Timing} {p : Nat} {w : WorkloadSet}
    (hs : s.verifier = .external) :
    Accounted s.retry id (.outdated p w) (s.updateOrdinal (.external timing) id w (.ofNat p))
      (fun r t => r.2 = .ok () ∧ t = .between p r.1) fun r cause => r.2 = .error cause := by
  rw [Strategy.updateOrdinal]
  refine .call ?_
  rintro (cause | _)
  · exact .inr ⟨_, _, rfl, rfl, .unready⟩
  refine .inl ⟨_, .allow, .bind (accounted_updateWithin (w := w.withPartition (.ofNat p))) ?_ ?_⟩
  case refine_2 =>
    rintro _ _ ⟨e, rfl, rfl⟩
    exact ⟨_, rfl, rfl⟩
  rintro _ _ ⟨⟨stored, rfl⟩, rfl⟩
  rw [hs]
  refine .bind accounted_poll ?_ ?_
  case refine_2 =>
    rintro _ _ ⟨⟨attempts, elapsed, last⟩ | attempts, rfl, rfl⟩ <;> exact ⟨_, rfl, rfl⟩
  rintro _ _ ⟨⟨n, rfl⟩, rfl⟩
  refine .call ?_
  rintro (e | latest)
  · exact .inr ⟨_, _, rfl, rfl, .vanish⟩
  refine .inl ⟨_, .reread, .call ?_⟩
  rintro (cause | _)
  · exact .inr ⟨_, _, rfl, rfl, .sicken⟩
  · exact .inl ⟨_, .finish, .done ⟨rfl, rfl⟩⟩

theorem accounted_walk {s : Strategy} {timing : Timing} {count : Nat} {w : WorkloadSet}
    {skipped : Bool} (hs : s.verifier = .external) :
    Accounted s.retry id (.between count w) (s.walk (.external timing) id count w skipped)
      (fun r t => r.2.result = .ok () ∧ t = .between 0 r.1)
      fun r cause => r.2.result = .error cause := by
  induction count generalizing w skipped with
  | zero =>
    rw [Strategy.walk]
    exact .done ⟨rfl, rfl⟩
  | succ count ih =>
    rw [Strategy.walk]
    refine .call ?_
    rintro (_ | _)
    · refine .inl ⟨_, .proceed, ?_⟩
      rw [hs]
      refine .call ?_
      rintro (cause | _)
      · refine .inl ⟨_, .begin, .bind (accounted_updateOrdinal hs) ?_ ?_⟩
        · rintro ⟨latest, result⟩ _ ⟨rfl, rfl⟩
          exact ih
        · rintro ⟨latest, result⟩ cause rfl
          exact ⟨_, rfl, rfl⟩
      · exact .inl ⟨_, .skip, ih⟩
    · exact .inr ⟨_, _, rfl, rfl, .interrupt⟩

/-- **Stops.** A rollout that fails was stopped at a point of the protocol and reports the error of
that point. -/
theorem run_rollOut_failed {retry : ConflictRetry} {jitter : Bool} {rounds : Nat} {timing : Timing}
    {working latest : WorkloadSet} {es : List Exchange} {o : Outcome} {cause : RolloutError}
    (h : Run ((⟨.external, retry, jitter, rounds⟩ : Strategy).rollOut (.external timing) id working)
      es (.ok (latest, o))) (ho : o.result = .error cause) :
    Stops retry id (.between working.spec.replicas.toNat working) es cause := by
  rcases accounted_walk rfl es _ h with ⟨t, -, hok, -⟩ | ⟨cause', hcause, hstops⟩
  · rw [ho] at hok
    cases hok
  · obtain rfl := Except.error.inj (ho.symm.trans hcause)
    exact hstops

end

/-! ## What an error says about a run -/

namespace Program.Exchange

/-- With this reply an ordinal is done with. -/
def concludes : Exchange → Bool
  | ⟨.verify _ _, .ok _⟩ => true
  | ⟨.probeHealth _ _, .ok _⟩ => true
  | _ => false

/-- The error of a call to the store that failed. -/
def storeError? : Exchange → Option StoreError
  | ⟨.get _, .error e⟩ => some e
  | ⟨.update _, .error e⟩ => some e
  | _ => none

end Program.Exchange

/-- The error of the last call, if that was one to the store and failed. -/
def lastStoreError? (es : List Exchange) : Option StoreError :=
  es.getLast?.bind Exchange.storeError?

@[simp]
theorem lastStoreError?_concat (es : List Exchange) (x : Exchange) :
    lastStoreError? (es ++ [x]) = x.storeError? := by
  simp [lastStoreError?]

/-- The number of ordinals that are not done with. -/
def Stage.left : Stage → Nat
  | .between count _ => count
  | .cleared p _ => p + 1
  | .outdated p _ => p + 1
  | .ready p .. => p + 1
  | .refused p .. => p + 1
  | .rested p .. => p + 1
  | .polling _ p _ => p + 1
  | .converged p _ => p + 1
  | .reread p _ => p + 1
  | .ended => 0

section

variable {policy : ConflictRetry} {id : WorkloadId} {s t : Stage} {x : Exchange}
  {es : List Exchange} {cause : RolloutError}

theorem Move.left (h : Move policy id s x t) (ht : t ≠ .ended) :
    t.left + (if x.concludes then 1 else 0) = s.left := by
  cases h with
  | interrupt | unready | reject | rouse | lose | giveUp | cut | wake | vanish | sicken =>
    exact absurd rfl ht
  | _ => rfl

/-- Every ordinal was left at first, or is done with now. -/
theorem Moves.left (h : Moves policy id s es t) (ht : t ≠ .ended) :
    t.left + es.countP Exchange.concludes = s.left := by
  induction h with
  | nil => rfl
  | @cons s r u x es head tail ih =>
    rw [List.countP_cons, ← Nat.add_assoc, ih ht, head.left (tail.ne_ended ht)]

/-- A poll does not come to its wait by a call to the store. -/
theorem Moves.lastStoreError?_eq_none {phase : PollPhase} {p : Nat} {w : WorkloadSet}
    (h : Moves policy id s es (.polling phase p w)) (hphase : phase = .spacing ∨ phase = .pause) :
    lastStoreError? es = none := by
  rcases List.eq_nil_or_concat es with rfl | ⟨pre, x, rfl⟩
  · rfl
  · rw [List.concat_eq_append] at h ⊢
    obtain ⟨r, -, hx⟩ := Moves.append_iff.1 h
    obtain ⟨t, hmove, hnil⟩ := Moves.cons_iff.1 hx
    obtain rfl := Moves.nil_iff.1 hnil
    rw [lastStoreError?_concat]
    cases hmove with
    | measure | draw => rfl
    | _ => simp at hphase

theorem Stop.not_ended {u : Stage} (h : Stop policy id u es cause) : u ≠ .ended := by
  rintro rfl
  cases h

/-- A stop concludes no ordinal, and its error names the one that it is at. -/
theorem Stop.ordinal {u : Stage} (h : Stop policy id u es cause) :
    ∃ p, u.left = p + 1 ∧ es.countP Exchange.concludes = 0 ∧ cause.ordinal = some (.ofNat p) := by
  cases h <;> exact ⟨_, rfl, rfl, rfl⟩

theorem Stops.ordinal (h : Stops policy id s es cause) :
    ∃ p, p + 1 + es.countP Exchange.concludes = s.left ∧ cause.ordinal = some (.ofNat p) := by
  obtain ⟨pre, last, u, rfl, hmoves, hstop⟩ := h
  obtain ⟨p, hleft, hlast, hordinal⟩ := hstop.ordinal
  refine ⟨p, ?_, hordinal⟩
  rw [List.countP_append, hlast, Nat.add_zero, ← hleft]
  exact hmoves.left hstop.not_ended

/-- An error carries that of the store if it was the store that stopped the rollout, and is of the
last kind otherwise. -/
theorem Stops.root (h : Stops policy id s es cause) :
    (∃ e, lastStoreError? es = some e ∧ cause.root = .store ⟨id, e⟩) ∨
      lastStoreError? es = none ∧ cause.kind = .other := by
  obtain ⟨pre, last, u, rfl, hmoves, hstop⟩ := h
  cases hstop with
  | expire hphase =>
    rw [List.append_nil, hmoves.lastStoreError?_eq_none hphase]
    exact .inr ⟨rfl, rfl⟩
  | reject | lose | vanish => exact .inl ⟨_, lastStoreError?_concat _ _, rfl⟩
  | _ => exact .inr ⟨lastStoreError?_concat _ _, rfl⟩

end

namespace ErrorKind

/-- What a kind says about the error of the store behind a failure, if there is one. Every error of
the store has its line here, so that no kind stands for more or for less than it says. -/
structure Reflects (kind : ErrorKind) (e : Option StoreError) : Prop where
  /-- A set does not exist exactly if the store did not find it. -/
  notFound : kind = .notFound ↔ ∃ key, e = some (.notFound key)
  /-- Somebody else wrote in between exactly if the store saw another version. -/
  conflict : kind = .conflict ↔ ∃ key expected actual, e = some (.conflict key expected actual)
  /-- A structured rejection is one exactly if the store made it. -/
  status : kind = .status ↔ ∃ code reason detail, e = some (.status code reason detail)
  /-- The last kind is that of every other error, and of failures that are not the store's. -/
  other : kind = .other ↔ e = none ∨ ∃ cause, e = some (.open cause) ∨
    e = some (.transaction cause) ∨ e = some (.table cause) ∨ e = some (.read cause) ∨
    e = some (.write cause) ∨ e = some (.serialize cause) ∨ e = some (.deserialize cause)

theorem other_reflects : other.Reflects none := by
  constructor <;> simp

end ErrorKind

/-- An error of the store has the kind that is meant for it. -/
theorem StoreError.kind_reflects (e : StoreError) : e.kind.Reflects (some e) := by
  cases e <;> constructor <;> simp [StoreError.kind]

/-- What the error of a rollout says about its calls. -/
structure Blames (id : WorkloadId) (replicas : UInt32) (es : List Exchange)
    (cause : RolloutError) : Prop where
  /-- It names the ordinal that was being handled: those above are done with, and those below are
  left. -/
  ordinal : ∃ p, p + 1 + es.countP Exchange.concludes = replicas.toNat ∧
    cause.ordinal = some (.ofNat p)
  /-- Its kind tells by which error the store stopped the rollout, or that something else did. -/
  kind : cause.kind.Reflects (lastStoreError? es)
  /-- It carries that error, with the set that was rolled out. -/
  root : ∀ e, lastStoreError? es = some e → cause.root = .store ⟨id, e⟩

theorem Stops.blames {policy : ConflictRetry} {id : WorkloadId} {w : WorkloadSet}
    {es : List Exchange} {cause : RolloutError}
    (h : Stops policy id (.between w.spec.replicas.toNat w) es cause) :
    Blames id w.spec.replicas es cause := by
  refine ⟨h.ordinal, ?_, ?_⟩
  case refine_1 =>
    rcases h.root with ⟨e, he, hroot⟩ | ⟨hnone, hkind⟩
    · rw [he, RolloutError.kind, hroot]
      exact e.kind_reflects
    · rw [hnone, hkind]
      exact ErrorKind.other_reflects
  case refine_2 =>
    intro e he
    rcases h.root with ⟨e', he', hroot⟩ | ⟨hnone, -⟩
    · rwa [Option.some.inj (he.symm.trans he')]
    · cases he.symm.trans hnone

theorem Blames.inStrategy {id : WorkloadId} {replicas : UInt32} {es : List Exchange}
    {cause : RolloutError} (h : Blames id replicas es cause) :
    Blames id replicas es (cause.inStrategy id) :=
  ⟨h.ordinal, h.kind, h.root⟩

/-- **Failures are reported faithfully.** Whatever the store, the transform, the verifier, the gates
and the signal answer: a run that fails could not read the set, or could not compute the desired
one, and then it makes no further call; or it fails in the strategy, and its error says where and
why. -/
theorem rollOutSuite_reports {retry : ConflictRetry} {jitter : Bool} {rounds : Nat}
    {timing : Timing} {id : WorkloadId} {es : List Exchange} {skipped : Bool} {cause : RolloutError}
    (h : Run (rollOutSuite (.external timing)
      ⟨externalTransform, ⟨.external, retry, jitter, rounds⟩⟩ id) es
      (.ok (.failed skipped cause))) :
    (∃ e, es = [⟨.get id, .error e⟩] ∧ cause = .store ⟨id, e⟩ ∧ cause.kind.Reflects (some e) ∧
      cause.ordinal = none) ∨
    (∃ current failure, es = [⟨.get id, .ok current⟩, ⟨.transform current, .error failure⟩] ∧
      cause.root = .transform id failure ∧ cause.kind = .other ∧ cause.ordinal = none) ∨
    ∃ current desired rest source,
      es = ⟨.get id, .ok current⟩ :: ⟨.transform current, .ok desired⟩ :: rest ∧
      cause = .strategy id source ∧ Blames id desired.spec.replicas rest cause := by
  rcases run_rollOutSuite h with ⟨e, rfl, he⟩ | ⟨current, failure, rfl, he⟩ |
    ⟨current, desired, rest, ending, rfl, hrun, he⟩
  · cases he
    exact .inl ⟨e, rfl, rfl, e.kind_reflects, rfl⟩
  · cases he
    exact .inr (.inl ⟨current, failure, rfl, rfl, rfl, rfl⟩)
  · refine .inr (.inr ⟨current, desired, rest, ?_⟩)
    obtain ⟨latest, source, rfl, rfl⟩ := map_inStrategy_eq_failed.1 he.symm
    exact ⟨source, rfl, rfl, (run_rollOut_failed hrun rfl).blames.inStrategy⟩

/-! ## A set that is removed during its rollout -/

namespace RemovedSet

/-- The set that is rolled out. -/
def id : WorkloadId :=
  ⟨"db", "a"⟩

/-- What is rolled out to its two replicas. -/
def desired : WorkloadSet :=
  .ofSpec id 2 (.ofImage "v2")

/-- What the store answers once the set is gone. -/
def gone : StoreError :=
  .notFound id.key

/-- The calls for the replicas. The higher one has converged. The update of the lower one meets a
conflict, and the set cannot be read after that. -/
def calls : List Exchange :=
  [⟨.stopping, false⟩, ⟨.verify 1 desired, .ok ()⟩, ⟨.stopping, false⟩,
    ⟨.verify 0 desired, .error (.plain "not updated")⟩, ⟨.awaitReady, .ok ()⟩,
    ⟨.update (candidate 0 (desired.withPartition 0) (desired.withPartition 0)),
      .error (.conflict id.key 0 1)⟩,
    ⟨.sleep ConflictRetry.standard.interval, false⟩, ⟨.get id, .error gone⟩]

/-- What is reported. -/
def cause : RolloutError :=
  .strategy id (.atOrdinal 0 (.ofStore id gone))

theorem run_calls :
    Run (rollOutSuite (.external .standard)
        ⟨externalTransform, ⟨.external, .standard, false, 3⟩⟩ id)
      (⟨.get id, .ok desired⟩ :: ⟨.transform desired, .ok desired⟩ :: calls)
      (.ok (.failed false cause)) := by
  repeat apply Run.ask
  exact .done _

end RemovedSet

/-- The error names the lower replica and carries what the store answered. -/
theorem rollOutSuite_reports_removed_set :
    Run (rollOutSuite (.external .standard) ⟨externalTransform, ⟨.external, .standard, false, 3⟩⟩
        RemovedSet.id)
      (⟨.get RemovedSet.id, .ok RemovedSet.desired⟩ ::
        ⟨.transform RemovedSet.desired, .ok RemovedSet.desired⟩ :: RemovedSet.calls)
      (.ok (.failed false RemovedSet.cause)) ∧
    RemovedSet.cause.ordinal = some 0 ∧ RemovedSet.cause.kind = .notFound ∧
    RemovedSet.cause.root = .store ⟨RemovedSet.id, RemovedSet.gone⟩ := by
  refine ⟨RemovedSet.run_calls, ?_⟩
  rcases rollOutSuite_reports RemovedSet.run_calls with ⟨_, ⟨⟩, -⟩ | ⟨_, _, ⟨⟩, -⟩ |
    ⟨current, desired, rest, source, hes, -, hblames⟩
  cases hes
  obtain ⟨p, hp, hordinal⟩ := hblames.ordinal
  obtain rfl : p = 0 := by
    have hp : p + 1 + 1 = 2 := hp
    omega
  exact ⟨hordinal, hblames.kind.notFound.2 ⟨_, rfl⟩, hblames.root _ rfl⟩

end PartitionedRollout
