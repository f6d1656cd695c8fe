/-
# PartitionedRollout.Proofs.Store.Entry -- stores seen through their entries

A store keeps texts, but every theorem about it speaks of entries: what is under a key, if anything.
A write is seen under its own key and nowhere else. For each operation one equivalence says when
it succeeds and what it leaves behind, so that later modules open none of them.
-/

import PartitionedRollout.Proofs.Workload.RoundTrip
import PartitionedRollout.Store.Operation

namespace PartitionedRollout.Store

variable {s s' : Store} {w stored : WorkloadSet} {id : WorkloadId} {key : String}

/-! ## Entries -/

@[simp]
theorem decode_toChars (w : WorkloadSet) : decode w.toChars = .ok w := by
  simp [decode]

@[simp]
theorem entry_empty (key : String) : entry .empty key = .ok none :=
  rfl

/-- A written entry is found under its key, and every other one is as it was. -/
@[simp]
theorem entry_write (s : Store) (key : String) (w : WorkloadSet) (k : String) :
    (s.write key w).entry k = if key = k then .ok (some w) else s.entry k := by
  by_cases h : key = k
  · simp [entry, write, h, Except.map]
  · simp [entry, write, h]

/-- After a removal nothing is found under the key, and every other entry is as it was. -/
@[simp]
theorem entry_delete (s : Store) (id : WorkloadId) (k : String) :
    (s.delete id).2.entry k = if id.key = k then .ok none else s.entry k := by
  by_cases h : id.key = k
  · simp [entry, delete, h]
  · simp [entry, delete, h]

theorem entry_eq_none_of_free {s : Store} {key : String} (h : (s.table.get? key).isSome = false) :
    s.entry key = .ok none := by
  rw [entry, Option.isSome_eq_false_iff.1 h |> Option.isNone_iff_eq_none.1]

/-! ## What each operation does -/

/-- A step that can fail succeeds if both of its parts do. -/
theorem bind_eq_ok_iff {ε α β : Type} {x : Except ε α} {f : α → Except ε β} {b : β} :
    (x >>= f) = .ok b ↔ ∃ a, x = .ok a ∧ f a = .ok b := by
  cases x with
  | error e => simp [bind, Except.bind]
  | ok a => simp [bind, Except.bind]

theorem admissible_eq_ok_iff {spec : WorkloadSpec} {u : Unit} :
    admissible spec = .ok u ↔ spec.fault? = none := by
  unfold admissible
  split <;> simp [*]

theorem get_eq_ok_iff : s.get id = .ok w ↔ s.entry id.key = .ok (some w) := by
  rw [get, find, bind_eq_ok_iff]
  constructor
  · rintro ⟨_ | found, hentry, h⟩
    · cases h
    · obtain rfl : found = w := Except.ok.inj h
      exact hentry
  · intro h
    exact ⟨some w, h, rfl⟩

/-- The stored form of a set that is put over what was there. -/
def putOver (previous : Option WorkloadSet) (w : WorkloadSet) : WorkloadSet :=
  { w with
    resourceVersion := (nextNumbers previous w.spec).1
    generation := (nextNumbers previous w.spec).2 }

/-- The stored form of a set whose specification is replaced. -/
def withSpec (current : WorkloadSet) (spec : WorkloadSpec) : WorkloadSet :=
  { current with
    spec := spec
    resourceVersion := (nextNumbers (some current) spec).1
    generation := (nextNumbers (some current) spec).2 }

/-- The stored form of a set whose status is changed. -/
def withStatus (current : WorkloadSet) (f : WorkloadStatus → WorkloadStatus) : WorkloadSet :=
  { current with status := f current.status, resourceVersion := current.resourceVersion + 1 }

/-- The version of a write that follows an entry, or of a first write. -/
def nextVersion : Option WorkloadSet → UInt64
  | none => 1
  | some previous => previous.resourceVersion + 1

@[simp]
theorem putOver_id (previous : Option WorkloadSet) (w : WorkloadSet) :
    (putOver previous w).id = w.id :=
  rfl

@[simp]
theorem putOver_resourceVersion (previous : Option WorkloadSet) (w : WorkloadSet) :
    (putOver previous w).resourceVersion = nextVersion previous := by
  cases previous <;> rfl

@[simp]
theorem withSpec_id (current : WorkloadSet) (spec : WorkloadSpec) :
    (withSpec current spec).id = current.id :=
  rfl

@[simp]
theorem withSpec_resourceVersion (current : WorkloadSet) (spec : WorkloadSpec) :
    (withSpec current spec).resourceVersion = nextVersion (some current) :=
  rfl

@[simp]
theorem withStatus_id (current : WorkloadSet) (f : WorkloadStatus → WorkloadStatus) :
    (withStatus current f).id = current.id :=
  rfl

@[simp]
theorem withStatus_resourceVersion (current : WorkloadSet) (f : WorkloadStatus → WorkloadStatus) :
    (withStatus current f).resourceVersion = nextVersion (some current) :=
  rfl

/-- A set is put if its specification is admissible. -/
theorem put_eq_ok_iff :
    s.put w = .ok (stored, s') ↔ w.spec.fault? = none ∧
      ∃ previous, s.entry w.id.key = .ok previous ∧ stored = putOver previous w ∧
        s' = s.write w.id.key stored := by
  rw [put, bind_eq_ok_iff]
  simp only [admissible_eq_ok_iff, bind_eq_ok_iff]
  constructor
  · rintro ⟨_, hspec, previous, hentry, h⟩
    obtain ⟨rfl, rfl⟩ := Prod.mk.inj (Except.ok.inj h)
    exact ⟨hspec, previous, hentry, rfl, rfl⟩
  · rintro ⟨hspec, previous, hentry, rfl, rfl⟩
    exact ⟨(), hspec, previous, hentry, rfl⟩

/-- A specification is replaced if it is admissible and the given copy carries the version of the
entry. -/
theorem update_eq_ok_iff :
    s.update w = .ok (stored, s') ↔ w.spec.fault? = none ∧
      ∃ current, s.entry w.id.key = .ok (some current) ∧
        current.resourceVersion = w.resourceVersion ∧ stored = withSpec current w.spec ∧
        s' = s.write w.id.key stored := by
  rw [update, bind_eq_ok_iff]
  simp only [admissible_eq_ok_iff, bind_eq_ok_iff]
  constructor
  · rintro ⟨_, hspec, _ | current, hentry, h⟩
    · cases h
    · simp only at h
      split at h
      next hne => cases h
      next hv =>
        obtain ⟨rfl, rfl⟩ := Prod.mk.inj (Except.ok.inj h)
        exact ⟨hspec, current, hentry, Decidable.not_not.1 hv, rfl, rfl⟩
  · rintro ⟨hspec, current, hentry, hv, rfl, rfl⟩
    refine ⟨(), hspec, some current, hentry, ?_⟩
    simp only [hv, ne_eq, not_true_eq_false, if_false]
    rfl

/-- A status is changed if there is an entry. -/
theorem updateStatus_eq_ok_iff {f : WorkloadStatus → WorkloadStatus} :
    s.updateStatus id f = .ok (stored, s') ↔
      ∃ current, s.entry id.key = .ok (some current) ∧ stored = withStatus current f ∧
        s' = s.write id.key stored := by
  rw [updateStatus, bind_eq_ok_iff]
  constructor
  · rintro ⟨_ | current, hentry, h⟩
    · cases h
    · obtain ⟨rfl, rfl⟩ := Prod.mk.inj (Except.ok.inj h)
      exact ⟨current, hentry, rfl, rfl⟩
  · rintro ⟨current, hentry, rfl, rfl⟩
    exact ⟨some current, hentry, rfl⟩

theorem answerWrite_of_ok {r : Except StoreError (WorkloadSet × Store)} (h : r = .ok (stored, s')) :
    s.answerWrite r = (.stored stored, s') := by
  rw [h]
  rfl

theorem answerWrite_of_error {r : Except StoreError (WorkloadSet × Store)} {e : StoreError}
    (h : r = .error e) : s.answerWrite r = (.failed e, s) := by
  rw [h]
  rfl

theorem put_of_fault {fault : SpecFault} (h : w.spec.fault? = some fault) :
    s.put w = .error (.invalid fault.message) := by
  have herror : admissible w.spec = .error (.invalid fault.message) := by simp [admissible, h]
  simp only [put, herror]
  rfl

theorem update_of_fault {fault : SpecFault} (h : w.spec.fault? = some fault) :
    s.update w = .error (.invalid fault.message) := by
  have herror : admissible w.spec = .error (.invalid fault.message) := by simp [admissible, h]
  simp only [update, herror]
  rfl

theorem updateStatus_of_no_entry {f : WorkloadStatus → WorkloadStatus}
    (h : s.entry id.key = .ok none) : s.updateStatus id f = .error (.notFound id.key) := by
  simp only [updateStatus, h]
  rfl

theorem update_of_no_entry (hspec : w.spec.fault? = none) (h : s.entry w.id.key = .ok none) :
    s.update w = .error (.notFound w.id.key) := by
  have hok : admissible w.spec = .ok () := admissible_eq_ok_iff.2 hspec
  simp only [update, hok, h]
  rfl

theorem update_of_version_ne {current : WorkloadSet} (hspec : w.spec.fault? = none)
    (h : s.entry w.id.key = .ok (some current))
    (hv : current.resourceVersion ≠ w.resourceVersion) :
    s.update w = .error (.conflict w.id.key w.resourceVersion current.resourceVersion) := by
  have hok : admissible w.spec = .ok () := admissible_eq_ok_iff.2 hspec
  simp only [update, hok, h]
  simp [hv, bind, Except.bind, throw, throwThe, MonadExceptOf.throw]

theorem mem_of_mapM {ε α β : Type} {f : α → Except ε β} {l : List α} {l' : List β}
    (h : l.mapM f = .ok l') {y : β} (hy : y ∈ l') : ∃ x ∈ l, f x = .ok y := by
  induction l generalizing l' with
  | nil =>
    obtain rfl : [] = l' := Except.ok.inj h
    cases hy
  | cons x l ih =>
    rw [List.mapM_cons, bind_eq_ok_iff] at h
    obtain ⟨z, hz, h⟩ := h
    rw [bind_eq_ok_iff] at h
    obtain ⟨zs, hzs, h⟩ := h
    obtain rfl : z :: zs = l' := Except.ok.inj h
    rcases List.mem_cons.1 hy with rfl | hy
    · exact ⟨x, List.mem_cons_self, hz⟩
    · obtain ⟨x', hx', hfx⟩ := ih hzs hy
      exact ⟨x', List.mem_cons_of_mem _ hx', hfx⟩

/-- Whatever is listed is the entry under some key. -/
theorem entry_of_mem_list {l : List WorkloadSet} (h : s.list = .ok l) (hw : w ∈ l) :
    ∃ key, s.entry key = .ok (some w) := by
  obtain ⟨text, htext, hdecode⟩ := mem_of_mapM h hw
  obtain ⟨⟨key, _⟩, hmem, rfl⟩ := List.mem_map.1 htext
  refine ⟨key, ?_⟩
  rw [entry, TextMap.get?_of_mem_entries hmem]
  simp [hdecode, Except.map]

end PartitionedRollout.Store
