/-
# PartitionedRollout.Proofs.Workload.Entries -- which entry of a status counts

A status lists entries as it likes: in any order, several for one ordinal, some for ordinals that no
replica has. The entry that counts for an ordinal is the first one with it, and `FirstEntry` says so
of the list itself. Looking a replica up finds that entry, and a set is ready if for every replica
that entry says so.
-/

import PartitionedRollout.Workload.Basic

namespace PartitionedRollout

/-- The first entry with an ordinal: there is none with it in front of this one. -/
def WorkloadStatus.FirstEntry (s : WorkloadStatus) (ordinal : UInt32) (r : ReplicaStatus) : Prop :=
  ∃ before after, s.replicas = before ++ r :: after ∧ r.ordinal = ordinal ∧
    ∀ x ∈ before, x.ordinal ≠ ordinal

theorem WorkloadStatus.replica?_eq_some_iff {s : WorkloadStatus} {ordinal : UInt32}
    {r : ReplicaStatus} : s.replica? ordinal = some r ↔ s.FirstEntry ordinal r := by
  rw [replica?, List.find?_eq_some_iff_append]
  constructor
  · rintro ⟨hr, before, after, hs, hbefore⟩
    exact ⟨before, after, hs, by simpa using hr, fun x hx => by simpa using hbefore x hx⟩
  · rintro ⟨before, after, hs, hr, hbefore⟩
    exact ⟨by simpa using hr, before, after, hs, fun x hx => by simpa using hbefore x hx⟩

/-- Every replica has an entry, and the one that counts says that it serves. -/
def WorkloadSet.Ready (w : WorkloadSet) : Prop :=
  ∀ ordinal < w.spec.replicas, ∃ r, w.status.FirstEntry ordinal r ∧ r.ready = true

theorem WorkloadSet.isReady_iff {w : WorkloadSet} {ordinal : UInt32} :
    w.isReady ordinal = true ↔ ∃ r, w.status.FirstEntry ordinal r ∧ r.ready = true := by
  simp only [isReady, Option.any_eq_true_iff_get, ← WorkloadStatus.replica?_eq_some_iff]
  constructor
  · rintro ⟨hsome, hready⟩
    exact ⟨_, (Option.some_get hsome).symm, hready⟩
  · rintro ⟨r, hr, hready⟩
    exact ⟨by rw [hr]; rfl, by simpa [hr] using hready⟩

theorem WorkloadSet.allReady_iff {w : WorkloadSet} : w.allReady = true ↔ w.Ready := by
  rw [allReady, Nat.all_eq_finRange_all, List.all_eq_true]
  constructor
  · intro h ordinal hordinal
    have hready : w.isReady (UInt32.ofNat ordinal.toNat) = true :=
      h ⟨ordinal.toNat, UInt32.lt_iff_toNat_lt.1 hordinal⟩ (List.mem_finRange _)
    rw [UInt32.ofNat_toNat] at hready
    exact isReady_iff.1 hready
  · rintro h ⟨i, hi⟩ -
    refine isReady_iff.2 (h (UInt32.ofNat i) ?_)
    rw [UInt32.lt_iff_toNat_lt, UInt32.toNat_ofNat_of_lt' (Nat.lt_trans hi w.spec.replicas.toNat_lt)]
    exact hi

theorem WorkloadSet.allReady_eq_false {w : WorkloadSet} (h : ¬ w.Ready) : w.allReady = false :=
  Bool.eq_false_iff.2 (mt allReady_iff.1 h)

end PartitionedRollout
