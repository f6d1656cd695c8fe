/-
# PartitionedRollout.Proofs.Workload.Recorded -- what recording a report does to a status

A report takes the place of the first entry for its replica. If there is no such entry, it is put in
and all entries are sorted, whatever order they had. The sort moves entries for different replicas
past each other but never two for the same replica, so for each replica the entries stay as they
were, in their order: `entriesOf_record`. This together with the list of ordinals determines a
status, so that two reports on different replicas may be recorded in either order.
-/

import PartitionedRollout.Command.Report
import PartitionedRollout.Proofs.Workload.Entries
import Mathlib.Data.List.Basic
import Mathlib.Order.Basic

namespace PartitionedRollout.WorkloadStatus

open scoped List

variable {s : WorkloadStatus} {r r₁ r₂ : ReplicaStatus} {l l' : List ReplicaStatus}
  {os os' : List UInt32} {o p q : UInt32}

/-! ## Views of a status -/

/-- The entries for a replica, in their order. -/
def entriesOf (q : UInt32) (l : List ReplicaStatus) : List ReplicaStatus :=
  l.filter (·.ordinal = q)

/-- The ordinals in the order of the entries. -/
def ordinals (s : WorkloadStatus) : List UInt32 :=
  s.replicas.map ReplicaStatus.ordinal

/-- The entries are in the order of their ordinals, one for each. -/
def Ordered (s : WorkloadStatus) : Prop :=
  s.ordinals.Pairwise (· < ·)

/-- The entry that counts is the first one for its replica. -/
theorem replica?_eq_head? (s : WorkloadStatus) (q : UInt32) :
    s.replica? q = (entriesOf q s.replicas).head? := by
  rw [entriesOf, List.head?_filter]
  rfl

theorem entriesOf_cons (q : UInt32) (r : ReplicaStatus) (l : List ReplicaStatus) :
    entriesOf q (r :: l) = if r.ordinal = q then r :: entriesOf q l else entriesOf q l := by
  simp [entriesOf, List.filter_cons]

/-- A list of entries is determined by its ordinals and by the entries for each replica. -/
theorem eq_of_entriesOf (hordinals : l.map ReplicaStatus.ordinal = l'.map ReplicaStatus.ordinal)
    (hentries : ∀ q, entriesOf q l = entriesOf q l') : l = l' := by
  induction l generalizing l' with
  | nil => exact (List.map_eq_nil_iff.1 hordinals.symm).symm
  | cons r l ih =>
    obtain ⟨r', l', rfl, hr, htail⟩ := List.map_eq_cons_iff.1 hordinals.symm
    -- The heads have one ordinal, so they are the first entries for the same replica.
    have hhead := hentries r.ordinal
    rw [entriesOf_cons, entriesOf_cons, if_pos rfl, if_pos hr] at hhead
    obtain ⟨rfl, -⟩ := List.cons.inj hhead
    refine congrArg (r :: ·) (ih htail.symm ?_)
    intro q
    have hq := hentries q
    rw [entriesOf_cons, entriesOf_cons] at hq
    split at hq
    · exact (List.cons.inj hq).2
    · exact hq

/-! ## Putting a report in place of another -/

theorem map_ordinal_modifyFirst (hr : r.ordinal = o) (l : List ReplicaStatus) :
    (modifyFirst o (fun _ => r) l).map ReplicaStatus.ordinal = l.map ReplicaStatus.ordinal := by
  induction l with
  | nil => rfl
  | cons x l ih =>
    rw [modifyFirst]
    split
    next hx => rw [List.map_cons, List.map_cons, hr, hx]
    next => rw [List.map_cons, List.map_cons, ih]

/-- The first entry for the replica is replaced, and no entry for another one is. -/
theorem entriesOf_modifyFirst (hr : r.ordinal = o) (hfound : entriesOf o l ≠ []) (q : UInt32) :
    entriesOf q (modifyFirst o (fun _ => r) l) =
      if q = o then r :: (entriesOf o l).tail else entriesOf q l := by
  induction l with
  | nil => exact absurd rfl hfound
  | cons x l ih =>
    rw [modifyFirst]
    split
    next hx =>
      subst hx
      rw [entriesOf_cons, entriesOf_cons, entriesOf_cons, hr]
      by_cases hq : q = x.ordinal
      · simp [hq]
      · simp [hq, Ne.symm hq]
    next hx =>
      rw [entriesOf_cons, if_neg hx] at hfound
      rw [entriesOf_cons, entriesOf_cons, entriesOf_cons, if_neg hx, ih hfound]
      by_cases hq : q = o
      · simp [hq, hx]
      · simp [hq]

/-! ## Putting a first report in -/

/-- The entries sorted by their ordinals. -/
def sorted (l : List ReplicaStatus) : List ReplicaStatus :=
  l.mergeSort fun a b => a.ordinal ≤ b.ordinal

/-- The sort is stable: the entries for one replica keep their order. -/
theorem entriesOf_sorted (q : UInt32) (l : List ReplicaStatus) :
    entriesOf q (sorted l) = entriesOf q l := by
  have hequal : (entriesOf q l).Pairwise fun a b => decide (a.ordinal ≤ b.ordinal) = true := by
    refine List.pairwise_of_forall_mem_list ?_
    intro a ha b hb
    have ha : a.ordinal = q := by simpa using (List.mem_filter.1 ha).2
    have hb : b.ordinal = q := by simpa using (List.mem_filter.1 hb).2
    simp [ha, hb]
  have hsub : (entriesOf q l).Sublist (sorted l) :=
    List.sublist_mergeSort (by simpa using fun _ _ _ => UInt32.le_trans)
      (by simpa using fun a b => UInt32.le_total _ _) hequal List.filter_sublist
  have hkept : (entriesOf q l).Sublist (entriesOf q (sorted l)) := by
    simpa [entriesOf] using hsub.filter (·.ordinal = q)
  have hperm : (entriesOf q (sorted l)).Perm (entriesOf q l) :=
    (List.mergeSort_perm l _).filter _
  exact (hkept.eq_of_length hperm.length_eq.symm).symm

/-- Ordinals with one more put in, unless it is there. -/
def withOrdinal (os : List UInt32) (o : UInt32) : List UInt32 :=
  if o ∈ os then os else (os ++ [o]).mergeSort

theorem pairwise_le_mergeSort (os : List UInt32) : os.mergeSort.Pairwise (· ≤ ·) := by
  have h := @List.pairwise_mergeSort UInt32 (fun a b => decide (a ≤ b))
    (by simpa using fun _ _ _ => UInt32.le_trans) (by simpa using UInt32.le_total) os
  simpa using h

/-- Ascending lists of the same ordinals are equal. -/
theorem eq_of_perm_of_pairwise_le (h : os.Perm os') (hos : os.Pairwise (· ≤ ·))
    (hos' : os'.Pairwise (· ≤ ·)) : os = os' :=
  h.eq_of_pairwise (fun _ _ _ _ => UInt32.le_antisymm) hos hos'

theorem mem_withOrdinal : p ∈ withOrdinal os o ↔ p ∈ os ∨ p = o := by
  unfold withOrdinal
  split
  next h =>
    constructor
    · exact .inl
    · rintro (hp | rfl)
      · exact hp
      · exact h
  next => simp

/-- Whether an ordinal is put in first or last, the ordinals are the same. -/
theorem withOrdinal_comm (os : List UInt32) (hne : o ≠ p) :
    withOrdinal (withOrdinal os o) p = withOrdinal (withOrdinal os p) o := by
  have hmem : p ∈ withOrdinal os o ↔ p ∈ os := by simp [mem_withOrdinal, Ne.symm hne]
  have hmem' : o ∈ withOrdinal os p ↔ o ∈ os := by simp [mem_withOrdinal, hne]
  rw [withOrdinal, withOrdinal.eq_1 (withOrdinal os p) o]
  simp only [hmem, hmem']
  by_cases ho : o ∈ os <;> by_cases hp : p ∈ os <;>
    simp only [withOrdinal, ho, hp, if_true, if_false]
  -- Both are new, and then both lists are sorted.
  refine eq_of_perm_of_pairwise_le ?_ (pairwise_le_mergeSort _) (pairwise_le_mergeSort _)
  have hswap : os ++ [o] ++ [p] ~ os ++ [p] ++ [o] := by
    rw [List.append_assoc, List.append_assoc]
    exact List.perm_append_comm.append_left os
  calc ((os ++ [o]).mergeSort ++ [p]).mergeSort
    _ ~ (os ++ [o]).mergeSort ++ [p] := List.mergeSort_perm _ _
    _ ~ os ++ [o] ++ [p] := (List.mergeSort_perm _ _).append_right _
    _ ~ os ++ [p] ++ [o] := hswap
    _ ~ (os ++ [p]).mergeSort ++ [o] := ((List.mergeSort_perm _ _).append_right _).symm
    _ ~ ((os ++ [p]).mergeSort ++ [o]).mergeSort := (List.mergeSort_perm _ _).symm

/-- Ordinals that go up still do. -/
theorem pairwise_lt_withOrdinal (h : os.Pairwise (· < ·)) (o : UInt32) :
    (withOrdinal os o).Pairwise (· < ·) := by
  unfold withOrdinal
  split
  next => exact h
  next ho =>
    have hnodup : (o :: os).Nodup := List.nodup_cons.2 ⟨ho, h.imp UInt32.ne_of_lt⟩
    have hperm : (os ++ [o]).mergeSort ~ o :: os :=
      (List.mergeSort_perm _ _).trans (List.perm_append_singleton o os)
    have hdistinct : (os ++ [o]).mergeSort.Nodup := hperm.nodup_iff.2 hnodup
    exact (pairwise_le_mergeSort _).imp₂ (fun _ _ => UInt32.lt_of_le_of_ne) hdistinct

/-! ## Recording a report -/

theorem record_of_some {x : ReplicaStatus} (h : s.replica? r.ordinal = some x) :
    s.record r = ⟨s.observedGeneration, modifyFirst r.ordinal (fun _ => r) s.replicas⟩ := by
  simp [record, h, modifyReplica]

theorem record_of_none (h : s.replica? r.ordinal = none) :
    s.record r = ⟨s.observedGeneration, sorted (s.replicas ++ [r])⟩ := by
  simp [record, h, sorted]

@[simp]
theorem observedGeneration_record (s : WorkloadStatus) (r : ReplicaStatus) :
    (s.record r).observedGeneration = s.observedGeneration := by
  cases h : s.replica? r.ordinal with
  | some x => rw [record_of_some h]
  | none => rw [record_of_none h]

theorem mem_ordinals : o ∈ s.ordinals ↔ (s.replica? o).isSome = true := by
  simp [ordinals, replica?]

theorem ordinals_record (s : WorkloadStatus) (r : ReplicaStatus) :
    (s.record r).ordinals = withOrdinal s.ordinals r.ordinal := by
  have hmem : r.ordinal ∈ s.ordinals ↔ (s.replica? r.ordinal).isSome = true := mem_ordinals
  cases h : s.replica? r.ordinal with
  | some x =>
    rw [record_of_some h, withOrdinal, if_pos (hmem.2 (by simp [h]))]
    exact map_ordinal_modifyFirst rfl s.replicas
  | none =>
    rw [record_of_none h, withOrdinal, if_neg (by simp [hmem, h])]
    have hsort : (sorted (s.replicas ++ [r])).map ReplicaStatus.ordinal =
        ((s.replicas ++ [r]).map ReplicaStatus.ordinal).mergeSort :=
      List.map_mergeSort fun _ _ _ _ => rfl
    rwa [List.map_append] at hsort

/-- **Recording a report** replaces the first entry for its replica, or is the first one, and leaves
the entries for every other replica as they are, in their order. -/
theorem entriesOf_record (s : WorkloadStatus) (r : ReplicaStatus) (q : UInt32) :
    entriesOf q (s.record r).replicas =
      if q = r.ordinal then r :: (entriesOf r.ordinal s.replicas).tail
      else entriesOf q s.replicas := by
  have hfirst := s.replica?_eq_head? r.ordinal
  cases h : s.replica? r.ordinal with
  | some x =>
    have hfound : entriesOf r.ordinal s.replicas ≠ [] := by
      intro hnil
      simp [h, hnil] at hfirst
    rw [record_of_some h]
    exact entriesOf_modifyFirst rfl hfound q
  | none =>
    have hnone : entriesOf r.ordinal s.replicas = [] :=
      List.head?_eq_none_iff.1 (hfirst.symm.trans h)
    rw [record_of_none h, entriesOf_sorted, hnone, entriesOf, List.filter_append]
    by_cases hq : q = r.ordinal
    · rw [if_pos hq, hq, show s.replicas.filter (·.ordinal = r.ordinal) = [] from hnone]
      simp
    · simp [hq, Ne.symm hq, entriesOf]

/-- The report is the entry that counts for its replica. -/
theorem replica?_record_self (s : WorkloadStatus) (r : ReplicaStatus) :
    (s.record r).replica? r.ordinal = some r := by
  rw [replica?_eq_head?, entriesOf_record, if_pos rfl]
  rfl

/-- The entries that count for the others still do. -/
theorem replica?_record_of_ne (s : WorkloadStatus) (hq : q ≠ r.ordinal) :
    (s.record r).replica? q = s.replica? q := by
  rw [replica?_eq_head?, replica?_eq_head?, entriesOf_record, if_neg hq]

theorem Ordered.record (h : s.Ordered) (r : ReplicaStatus) : (s.record r).Ordered := by
  rw [Ordered, ordinals_record]
  exact pairwise_lt_withOrdinal h r.ordinal

/-- **Reports on different replicas may be recorded in either order.** -/
theorem record_comm (s : WorkloadStatus) (hne : r₁.ordinal ≠ r₂.ordinal) :
    (s.record r₁).record r₂ = (s.record r₂).record r₁ := by
  have hreplicas : ((s.record r₁).record r₂).replicas = ((s.record r₂).record r₁).replicas := by
    refine eq_of_entriesOf ?_ ?_
    · show ((s.record r₁).record r₂).ordinals = ((s.record r₂).record r₁).ordinals
      rw [ordinals_record, ordinals_record, ordinals_record, ordinals_record]
      exact withOrdinal_comm s.ordinals hne
    · intro q
      simp only [entriesOf_record, if_neg hne, if_neg hne.symm]
      by_cases h₁ : q = r₁.ordinal
      · have h₂ : q ≠ r₂.ordinal := h₁ ▸ hne
        simp only [if_pos h₁, if_neg h₂]
      · simp only [if_neg h₁]
  have hgeneration : ((s.record r₁).record r₂).observedGeneration =
      ((s.record r₂).record r₁).observedGeneration := by simp
  exact congrArg₂ WorkloadStatus.mk hgeneration hreplicas

end PartitionedRollout.WorkloadStatus
