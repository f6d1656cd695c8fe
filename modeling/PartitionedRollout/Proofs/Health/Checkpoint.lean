/-
# PartitionedRollout.Proofs.Health.Checkpoint -- how a checkpoint is decided

A checkpoint is three loops in one: replicas within a round, rounds, and rows of rounds that went
alike. Each gets a relation that says what it may do call by call: `Asked` for one replica, `Sweep`
for the replicas of a round, `HealthRound` for a round with the read in front of it, `CheckRounds`
for the rounds. What the stored set and the HTTP answers are, and how they change from one call to
the next, is left open throughout.

The rounds are decided by their results alone. As long as there is no verdict, neither kind of
result has had enough in a row, so the counts of the tracker are below its thresholds and cannot
wrap, however many rounds there are. The first round that completes a row ends the checkpoint.
-/

import PartitionedRollout.Health.ClusterProbe
import PartitionedRollout.Proofs.Health.History
import PartitionedRollout.Proofs.Rollout.Watchful
import PartitionedRollout.Proofs.Workload.Entries

namespace PartitionedRollout

open Program HealthTracker

/-! ## One replica -/

/-- The calls that ask a replica for its health, and the result. -/
inductive Asked (s : HealthSettings) (status : WorkloadStatus) (ordinal : UInt32) :
    List Exchange → ProbeResult → Prop where
  /-- The entry that counts has no address, or there is none. -/
  | unlisted (h : ∀ r, status.FirstEntry ordinal r → r.address = none) :
      Asked s status ordinal [] .failed
  /-- It has an address to which no request can be sent. -/
  | unsendable {r : ReplicaStatus} {address : String} (hr : status.FirstEntry ordinal r)
      (haddress : r.address = some address) (hrequest : HttpRequest.of? address s.endpoint = none) :
      Asked s status ordinal [] .failed
  /-- A request is sent to its address. -/
  | sent {r : ReplicaStatus} {address : String} {q : HttpRequest} (code : Option UInt16)
      (hr : status.FirstEntry ordinal r) (haddress : r.address = some address)
      (hrequest : HttpRequest.of? address s.endpoint = some q) :
      Asked s status ordinal [⟨.fetch q s.timeout, code⟩] (.ofStatus code)

/-- The call asked a replica at the address in the entry that counts, and the answer was a
success. -/
def Succeeds (s : HealthSettings) (status : WorkloadStatus) (ordinal : UInt32)
    (call : Option Exchange) : Prop :=
  ∃ r address q code, status.FirstEntry ordinal r ∧ r.address = some address ∧
    HttpRequest.of? address s.endpoint = some q ∧
    call = some ⟨.fetch q s.timeout, some code⟩ ∧ 200 ≤ code ∧ code < 300

section

variable {s : HealthSettings} {status : WorkloadStatus} {ordinal : UInt32} {es : List Exchange}
  {r : ProbeResult}

theorem ProbeResult.ofStatus_eq_healthy_iff {code : Option UInt16} :
    ProbeResult.ofStatus code = .healthy ↔ ∃ c, code = some c ∧ 200 ≤ c ∧ c < 300 := by
  cases code with
  | none => simp [ofStatus]
  | some c => simp [ofStatus]

/-- A replica is healthy if it was asked and the answer was a success. -/
theorem Asked.healthy_iff (h : Asked s status ordinal es r) :
    r = .healthy ↔ Succeeds s status ordinal es.head? := by
  have hunique {x y : ReplicaStatus} (hx : status.FirstEntry ordinal x)
      (hy : status.FirstEntry ordinal y) : x = y :=
    Option.some.inj <| (WorkloadStatus.replica?_eq_some_iff.2 hx).symm.trans
      (WorkloadStatus.replica?_eq_some_iff.2 hy)
  cases h with
  | unlisted | unsendable =>
    refine iff_of_false (fun h => nomatch h) ?_
    rintro ⟨_, _, _, _, -, -, -, hcall, -⟩
    cases hcall
  | @sent x address q code hx haddress hrequest =>
    rw [ProbeResult.ofStatus_eq_healthy_iff]
    constructor
    · rintro ⟨c, rfl, hc⟩
      exact ⟨x, address, q, c, hx, haddress, hrequest, rfl, hc⟩
    · rintro ⟨_, _, _, c, -, -, -, hcall, hc⟩
      cases hcall
      exact ⟨c, rfl, hc⟩

end

/-! ## One round -/

/-- The calls that ask `count` replicas from an ordinal on, and the result. They are asked in
ascending order, and a bad replica is the last one. -/
inductive Sweep (s : HealthSettings) (status : WorkloadStatus) (count ordinal : Nat)
    (es : List Exchange) : ProbeResult → Prop where
  /-- All of them answered with a success. -/
  | healthy (hlength : es.length = count)
      (hall : ∀ i < count, Succeeds s status (.ofNat (ordinal + i)) es[i]?) :
      Sweep s status count ordinal es .healthy
  /-- The first `k` of them did, and the next one did not. -/
  | bad {r : ProbeResult} (k : Nat) (hk : k < count)
      (hbefore : ∀ i < k, Succeeds s status (.ofNat (ordinal + i)) es[i]?)
      (hlast : Asked s status (.ofNat (ordinal + k)) (es.drop k) r) (hr : r ≠ .healthy) :
      Sweep s status count ordinal es r

/-- The calls of a round, and the result. -/
inductive HealthRound (s : HealthSettings) (id : WorkloadId) : List Exchange → ProbeResult → Prop
  where
  /-- The set could not be read. -/
  | unread (e : StoreError) : HealthRound s id [⟨.get id, .error e⟩] .failed
  /-- All of its replicas are asked, up to the first bad one. -/
  | read {w : WorkloadSet} {es : List Exchange} {r : ProbeResult}
      (hsweep : Sweep s w.status w.spec.replicas.toNat 0 es r) :
      HealthRound s id (⟨.get id, .ok w⟩ :: es) r

section

variable {s : HealthSettings} {status : WorkloadStatus} {id : WorkloadId} {count ordinal : Nat}
  {es calls : List Exchange} {r : ProbeResult}

/-- A success in front of a row of them. -/
theorem succeeds_cons {x : Exchange} (hx : Succeeds s status (.ofNat ordinal) (some x))
    (h : ∀ i < count, Succeeds s status (.ofNat (ordinal + 1 + i)) es[i]?) :
    ∀ i < count + 1, Succeeds s status (.ofNat (ordinal + i)) (x :: es)[i]? := by
  intro i hi
  cases i with
  | zero => exact hx
  | succ i =>
    rw [List.getElem?_cons_succ, Nat.add_comm i, ← Nat.add_assoc]
    exact h i (Nat.lt_of_succ_lt_succ hi)

theorem Sweep.cons {x : Exchange} (hx : Succeeds s status (.ofNat ordinal) (some x))
    (h : Sweep s status count (ordinal + 1) es r) :
    Sweep s status (count + 1) ordinal (x :: es) r := by
  cases h with
  | healthy hlength hall =>
    exact .healthy (congrArg Nat.succ hlength) (succeeds_cons hx hall)
  | bad k hk hbefore hlast hr =>
    refine .bad (k + 1) (Nat.succ_lt_succ hk) (succeeds_cons hx hbefore) ?_ hr
    rw [List.drop_succ_cons, ← Nat.add_assoc, Nat.add_right_comm]
    exact hlast

theorem Sweep.healthy_iff (h : Sweep s status count ordinal es r) :
    r = .healthy ↔ ∀ i < count, Succeeds s status (.ofNat (ordinal + i)) es[i]? := by
  cases h with
  | healthy _ hall => exact iff_of_true rfl hall
  | bad k hk _ hlast hr =>
    refine iff_of_false hr fun hall => hr (hlast.healthy_iff.2 ?_)
    rw [List.head?_drop]
    exact hall k hk

/-- A round is healthy if the set was read and all of its replicas answered with a success. -/
theorem HealthRound.healthy_iff (h : HealthRound s id calls r) :
    r = .healthy ↔ ∃ w, calls.head? = some ⟨.get id, .ok w⟩ ∧
      ∀ ordinal < w.spec.replicas, Succeeds s w.status ordinal calls[ordinal.toNat + 1]? := by
  cases h with
  | unread e =>
    refine iff_of_false nofun ?_
    rintro ⟨w, hread, -⟩
    cases hread
  | @read w es r hsweep =>
    rw [hsweep.healthy_iff]
    constructor
    · intro hall
      refine ⟨w, rfl, fun ordinal hordinal => ?_⟩
      have hone := hall ordinal.toNat (UInt32.lt_iff_toNat_lt.1 hordinal)
      rwa [Nat.zero_add, UInt32.ofNat_toNat] at hone
    · rintro ⟨_, hread, hall⟩ i hi
      cases hread
      have hnat : (UInt32.ofNat i).toNat = i :=
        UInt32.toNat_ofNat_of_lt' (Nat.lt_trans hi w.spec.replicas.toNat_lt)
      have hone := hall (.ofNat i) (UInt32.lt_iff_toNat_lt.2 (by rwa [hnat]))
      rw [hnat, List.getElem?_cons_succ] at hone
      rwa [Nat.zero_add]

end

/-! ## The rounds of a checkpoint -/

/-- The healthy rounds in a row that pass a checkpoint. -/
def HealthSettings.enough (s : HealthSettings) : Nat :=
  max 1 s.healthyThreshold.toNat

/-- The bad rounds in a row that fail one. -/
def HealthSettings.tooMany (s : HealthSettings) : Nat :=
  max 1 s.unhealthyThreshold.toNat

/-- The failure of a checkpoint. -/
def unhealthyCluster (s : HealthSettings) (checkpoint : String) : Failure :=
  .plain s!"cluster unhealthy {checkpoint}: {s.tooMany} failed rounds in a row"

/-- A round as part of a checkpoint. -/
structure CheckRound where
  /-- The read and the health requests. -/
  calls : List Exchange
  /-- What they came to. -/
  result : ProbeResult
  /-- The wait before the next round, if there is a next round. -/
  wait : Option TimeSpan

/-- The rounds of a checkpoint that nobody interrupts, after the results of earlier ones, and how it
ends. -/
inductive CheckRounds (s : HealthSettings) (id : WorkloadId) (checkpoint : String) :
    (budget : Nat) → (past : List ProbeResult) → List CheckRound → Ending (Except Failure Unit) →
      Prop where
  /-- No rounds are left. -/
  | exhausted {past : List ProbeResult} :
      CheckRounds s id checkpoint 0 past [] (.error .exhausted)
  /-- The verdict is healthy. -/
  | passed {budget : Nat} {past : List ProbeResult} {calls : List Exchange} {r : ProbeResult}
      (hround : HealthRound s id calls r)
      (hverdict : CallsFor s.enough s.tooMany (past ++ [r]) .healthy) :
      CheckRounds s id checkpoint (budget + 1) past [⟨calls, r, none⟩] (.ok (.ok ()))
  /-- It is unhealthy. -/
  | failed {budget : Nat} {past : List ProbeResult} {calls : List Exchange} {r : ProbeResult}
      (hround : HealthRound s id calls r)
      (hverdict : CallsFor s.enough s.tooMany (past ++ [r]) .unhealthy) :
      CheckRounds s id checkpoint (budget + 1) past [⟨calls, r, none⟩]
        (.ok (.error (unhealthyCluster s checkpoint)))
  /-- There is none yet, and another round follows after a wait. -/
  | again {budget : Nat} {past : List ProbeResult} {calls : List Exchange} {r : ProbeResult}
      {d : TimeSpan} {rounds : List CheckRound} {e : Ending (Except Failure Unit)}
      (hround : HealthRound s id calls r)
      (hverdict : CallsFor s.enough s.tooMany (past ++ [r]) .unknown)
      (hd : d.nanos = waitAfter s.interval (endingRow ProbeResult.isBad (past ++ [r])))
      (hrest : CheckRounds s id checkpoint budget (past ++ [r]) rounds e) :
      CheckRounds s id checkpoint (budget + 1) past (⟨calls, r, some d⟩ :: rounds) e

section

variable {good bad k : Nat} {past : List ProbeResult} {r : ProbeResult}

end

section

variable {s : HealthSettings} {id : WorkloadId} {checkpoint : String} {budget : Nat}
  {past : List ProbeResult} {es : List Exchange} {e : Ending (Except Failure Unit)}
  {t : HealthTracker} {r : ProbeResult}

end

/-! ## The decision -/

/-- With the result number `n`, and no earlier one, `a` results of a kind in a row are complete, and
there were no `b` results of another kind in a row before it. -/
def Completes (p q : ProbeResult → Bool) (a b n : Nat) (results : List ProbeResult) : Prop :=
  RowAt p a n results ∧ ∀ j < n, ¬ RowAt p a j results ∧ ¬ RowAt q b j results

section

variable {p q : ProbeResult → Bool} {a b n m k : Nat} {past results : List ProbeResult}
  {r : ProbeResult}

theorem Completes.unique (h : Completes p q a b n results) (h' : Completes p q a b m results) :
    n = m := by
  rcases Nat.lt_trichotomy n m with hlt | heq | hlt
  · exact absurd h.1 (h'.2 n hlt).1
  · exact heq
  · exact absurd h'.1 (h.2 m hlt).1

end

section

variable {s : HealthSettings} {id : WorkloadId} {checkpoint : String} {budget n k : Nat}
  {past results : List ProbeResult} {rounds : List CheckRound} {c : CheckRound} {d : TimeSpan}
  {e : Ending (Except Failure Unit)}

namespace Decided

end Decided

namespace CheckRounds

theorem ends (h : CheckRounds s id checkpoint budget past rounds e) :
    e = .ok (.ok ()) ∨ e = .ok (.error (unhealthyCluster s checkpoint)) ∨
      e = .error .exhausted ∧ rounds.length = budget := by
  induction h with
  | exhausted => exact .inr (.inr ⟨rfl, rfl⟩)
  | passed => exact .inl rfl
  | failed => exact .inr (.inl rfl)
  | again _ _ _ _ ih =>
    rcases ih with hpass | hfail | ⟨hspent, hlength⟩
    · exact .inl hpass
    · exact .inr (.inl hfail)
    · exact .inr (.inr ⟨hspent, congrArg Nat.succ hlength⟩)

end CheckRounds

end

namespace Recovery

/-- One replica with an address. -/
def cluster : WorkloadSet :=
  { WorkloadSet.ofSpec ⟨"db", "a"⟩ 1 (.ofImage "v1") with
    status := ⟨0, [⟨0, "old", true, some "10.0.0.1:8080"⟩]⟩ }

/-- The request that asks it. -/
def request : HttpRequest :=
  ⟨"10.0.0.1:8080", "http://10.0.0.1:8080/health"⟩

/-- The calls of a round with an answer. -/
def answered (code : UInt16) : List Exchange :=
  [⟨.get cluster.id, .ok cluster⟩, ⟨.fetch request (.ofSecs 2), some code⟩]

/-- A bad answer and two good ones. -/
def rounds : List CheckRound :=
  [⟨answered 503, .unhealthy, some (.ofSecs 2)⟩, ⟨answered 200, .healthy, some (.ofSecs 1)⟩,
    ⟨answered 204, .healthy, none⟩]

end Recovery

end PartitionedRollout
