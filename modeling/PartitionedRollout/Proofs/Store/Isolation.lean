/-
# PartitionedRollout.Proofs.Store.Isolation -- when identities share an entry

All sets lie in one table, under namespace and name with a slash between them. That text does not
always tell where the namespace ends: an identity overlaps another one if its namespace goes on,
over a slash, with the front of the other one's name. `key_eq_iff` shows that different identities
have one key exactly if one of them overlaps the other. What is done to one identity is seen under
another one exactly then, and exactly then a look-up of the one may answer a set of the other. No
identity without slashes overlaps or is overlapped.
-/

import PartitionedRollout.Proofs.Store.Catalog
import PartitionedRollout.Proofs.Store.Version

namespace PartitionedRollout

/-! ## Keys -/

namespace WorkloadId

/-- The namespace of the first identity is that of the second and, behind a slash, the front of its
name, up to a slash behind which the name of the first follows. -/
def Overlaps (i j : WorkloadId) : Prop :=
  ∃ middle, i.namespaceName = j.namespaceName ++ "/" ++ middle ∧ j.name = middle ++ "/" ++ i.name

theorem toList_key (i : WorkloadId) :
    i.key.toList = i.namespaceName.toList ++ '/' :: i.name.toList := by
  simp [key]

theorem key_eq_of_overlaps {i j : WorkloadId} (h : i.Overlaps j) : i.key = j.key := by
  obtain ⟨middle, hnamespace, hname⟩ := h
  rw [key, key, hnamespace, hname]
  simp only [String.append_assoc]

/-- Where a slash splits a text in two ways, what lies between the two slashes is the difference. -/
theorem overlaps_of_append {i j : WorkloadId} {middle : List Char}
    (hnamespace : i.namespaceName.toList = j.namespaceName.toList ++ middle)
    (hrest : '/' :: j.name.toList = middle ++ '/' :: i.name.toList) : i = j ∨ i.Overlaps j := by
  cases middle with
  | nil =>
    have hname : j.name = i.name := String.toList_inj.1 (List.cons.inj hrest).2
    have hsame : i.namespaceName = j.namespaceName :=
      String.toList_inj.1 (by simpa using hnamespace)
    obtain ⟨n, m⟩ := i
    obtain ⟨n', m'⟩ := j
    exact .inl (by simp_all)
  | cons c middle =>
    obtain ⟨rfl, hname⟩ := List.cons.inj hrest
    refine .inr ⟨String.ofList middle, String.toList_inj.1 ?_, String.toList_inj.1 ?_⟩
    · simpa using hnamespace
    · simpa using hname

/-- **Keys.** Different identities have one key exactly if one of them overlaps the other. -/
theorem key_eq_iff {i j : WorkloadId} : i.key = j.key ↔ i = j ∨ i.Overlaps j ∨ j.Overlaps i := by
  constructor
  · intro h
    have hchars := congrArg String.toList h
    rw [toList_key, toList_key, List.append_eq_append_iff] at hchars
    rcases hchars with ⟨middle, hnamespace, hrest⟩ | ⟨middle, hnamespace, hrest⟩
    · rcases overlaps_of_append hnamespace hrest with heq | hoverlaps
      · exact .inl heq.symm
      · exact .inr (.inr hoverlaps)
    · rcases overlaps_of_append hnamespace hrest with heq | hoverlaps
      · exact .inl heq
      · exact .inr (.inl hoverlaps)
  · rintro (rfl | h | h)
    · rfl
    · exact key_eq_of_overlaps h
    · exact (key_eq_of_overlaps h).symm

/-- An identity is in no overlap exactly if there is no slash in it. -/
theorem exists_overlap_iff {j : WorkloadId} :
    (∃ i, i.Overlaps j ∨ j.Overlaps i) ↔
      '/' ∈ j.namespaceName.toList ∨ '/' ∈ j.name.toList := by
  constructor
  · rintro ⟨i, ⟨middle, -, hname⟩ | ⟨middle, hnamespace, -⟩⟩
    · exact .inr (by simp [hname])
    · exact .inl (by simp [hnamespace])
  · rintro (h | h)
    · obtain ⟨front, back, hsplit⟩ := List.append_of_mem h
      refine ⟨⟨String.ofList front, String.ofList back ++ "/" ++ j.name⟩, .inr
        ⟨String.ofList back, String.toList_inj.1 ?_, rfl⟩⟩
      simp [hsplit]
    · obtain ⟨front, back, hsplit⟩ := List.append_of_mem h
      refine ⟨⟨j.namespaceName ++ "/" ++ String.ofList front, String.ofList back⟩, .inl
        ⟨String.ofList front, rfl, String.toList_inj.1 ?_⟩⟩
      simp [hsplit]

end WorkloadId

/-! ## Operations on one identity -/

/-- The identity that an operation is addressed to, if it may write or remove. -/
def StoreOperation.addressee? : StoreOperation → Option WorkloadId
  | .put w => some w.id
  | .update w => some w.id
  | .updateStatus id _ => some id
  | .delete id => some id
  | _ => none

namespace Store

variable {b : Backend} {s s' : Store} {op : StoreOperation} {i j : WorkloadId} {key : String}
  {ops : List StoreOperation}

/-- A write that fails changes nothing, and one that succeeds changes what is under its key. -/
theorem entry_answerWrite {r : Except StoreError (WorkloadSet × Store)} {target : String}
    (hr : ∀ stored t, r = .ok (stored, t) → t = s.write target stored) (hne : target ≠ key) :
    (s.answerWrite r).2.entry key = s.entry key := by
  cases r with
  | error e => rfl
  | ok p =>
    obtain ⟨stored, t⟩ := p
    obtain rfl := hr stored t rfl
    show (s.write target stored).entry key = s.entry key
    rw [entry_write, if_neg hne]

/-- **Frame.** An operation on an identity changes nothing under another key, in any store. -/
theorem entry_of_addressee (h : op.addressee? = some i) (hne : i.key ≠ key) :
    (s.perform b op).2.entry key = s.entry key := by
  cases op with
  | put w =>
    obtain rfl : w.id = i := Option.some.inj h
    refine entry_answerWrite (fun stored t hput => ?_) hne
    obtain ⟨-, _, -, -, ht⟩ := put_eq_ok_iff.1 hput
    exact ht
  | update w =>
    obtain rfl : w.id = i := Option.some.inj h
    refine entry_answerWrite (fun stored t hupdate => ?_) hne
    obtain ⟨-, _, -, -, -, ht⟩ := update_eq_ok_iff.1 hupdate
    exact ht
  | updateStatus id f =>
    obtain rfl : id = i := Option.some.inj h
    refine entry_answerWrite (fun stored t hstatus => ?_) hne
    obtain ⟨_, -, -, ht⟩ := updateStatus_eq_ok_iff.1 hstatus
    exact ht
  | delete id =>
    obtain rfl : id = i := Option.some.inj h
    show (s.delete id).2.entry key = s.entry key
    rw [entry_delete, if_neg hne]
  | find _ | list | reopen | writeText _ _ => cases h

/-- Nothing that a session does puts a set under a key other than its own. -/
theorem Sound.performAll (hs : s.Sound) (hops : ∀ op ∈ ops, op.OfSession b) :
    (s.performAll b ops).2.Sound := by
  induction ops generalizing s with
  | nil => exact hs
  | cons op ops ih =>
    refine ih ?_ fun op' hop' => hops op' (List.mem_cons_of_mem op hop')
    have hop := hops op List.mem_cons_self
    by_cases hreopen : op = .reopen
    · subst hreopen
      obtain rfl : b = .disk := hop
      exact hs
    · have client : op.OfClient := by
        cases op <;> first | exact hreopen rfl | exact hop
      exact sound_perform hs client rfl

theorem find_eq (s : Store) (id : WorkloadId) : s.find id = s.entry id.key :=
  rfl

/-- A set that is put into a new store is found under every identity that has its key. -/
theorem find_put_empty {w : WorkloadSet} (hspec : w.spec.fault? = none) (h : w.id.key = j.key) :
    (Store.empty.perform b (.put w)).2.find j = .ok (some (putOver none w)) := by
  have hput : Store.empty.put w = .ok _ :=
    put_eq_ok_iff.2 ⟨hspec, none, entry_empty _, rfl, rfl⟩
  simp only [perform]
  rw [answerWrite_of_ok hput, find_eq, entry_write, if_pos h]

/-- **Isolation.** No operation on one identity changes what is found for another one, in any store,
exactly if neither overlaps the other. A set that a session finds for an identity can be a set of
that identity or of one in an overlap with it, and of no other. And an identity is in an overlap
with some other one exactly if there is a slash in its namespace or in its name. -/
theorem identities_isolated_iff (b : Backend) (j : WorkloadId) :
    (∀ i, i ≠ j →
      ((∀ s op, StoreOperation.addressee? op = some i → (perform b s op).2.find j = s.find j) ↔
        ¬ i.Overlaps j ∧ ¬ j.Overlaps i)) ∧
    (∀ i, (∃ ops w, (∀ op ∈ ops, StoreOperation.OfSession b op) ∧
        (Store.empty.performAll b ops).2.find j = .ok (some w) ∧ w.id = i) ↔
      i = j ∨ i.Overlaps j ∨ j.Overlaps i) ∧
    ((∃ i, i.Overlaps j ∨ j.Overlaps i) ↔
      '/' ∈ j.namespaceName.toList ∨ '/' ∈ j.name.toList) := by
  have hspec : (⟨1, .ofImage "v1", none⟩ : WorkloadSpec).fault? = none := by decide
  refine ⟨?_, ?_, WorkloadId.exists_overlap_iff⟩
  · intro i hij
    rw [← not_or]
    constructor
    · intro hframe hoverlap
      have hkey : i.key = j.key := WorkloadId.key_eq_iff.2 (.inr hoverlap)
      have hsame := hframe .empty (.put (.ofSpec i 1 (.ofImage "v1"))) rfl
      rw [find_put_empty hspec hkey, find_eq, entry_empty] at hsame
      cases hsame
    · intro hoverlap s op hop
      refine entry_of_addressee hop fun hkey => ?_
      rcases WorkloadId.key_eq_iff.1 hkey with heq | h
      · exact hij heq
      · exact hoverlap h
  · intro i
    rw [← WorkloadId.key_eq_iff]
    constructor
    · rintro ⟨ops, w, hops, hfind, rfl⟩
      exact (sound_empty.performAll hops).filed _ _ hfind
    · intro hkey
      refine ⟨[.put (.ofSpec i 1 (.ofImage "v1"))], _, ?_, find_put_empty (b := b) hspec hkey, rfl⟩
      simp [StoreOperation.OfSession]

/-- Two sets of one namespace: what is done to the one is not seen under the other. -/
theorem identities_isolated_iff_neighbours :
    (⟨"db", "b"⟩ : WorkloadId) ≠ ⟨"db", "a"⟩ ∧
      ((Store.empty.write "db/a" (single "v1")).perform .disk (.delete ⟨"db", "b"⟩)).2.find
        ⟨"db", "a"⟩ = (Store.empty.write "db/a" (single "v1")).find ⟨"db", "a"⟩ := by
  have hne : (⟨"db", "b"⟩ : WorkloadId) ≠ ⟨"db", "a"⟩ := by decide
  obtain ⟨hframe, -, hslash⟩ := identities_isolated_iff .disk ⟨"db", "a"⟩
  have hnone : ¬ ∃ i : WorkloadId, i.Overlaps ⟨"db", "a"⟩ ∨ WorkloadId.Overlaps ⟨"db", "a"⟩ i := by
    rw [hslash]
    decide
  refine ⟨hne, (hframe _ hne).2 ⟨?_, ?_⟩ _ _ rfl⟩
  · exact fun h => hnone ⟨_, .inl h⟩
  · exact fun h => hnone ⟨_, .inr h⟩

/-- A set in the namespace `a/b` replaces another set, in the namespace `a`, and is found for it. -/
theorem foreign_set_found :
    let first : WorkloadSet := .ofSpec ⟨"a", "b/c"⟩ 1 (.ofImage "v1")
    let second : WorkloadSet := .ofSpec ⟨"a/b", "c"⟩ 1 (.ofImage "v2")
    first.id ≠ second.id ∧ ∃ s s' w w',
      Store.empty.perform .memory (.put first) = (.stored w, s) ∧
      s.find first.id = .ok (some w) ∧ w.id = first.id ∧
      s.perform .memory (.put second) = (.stored w', s') ∧
      s'.find first.id = .ok (some w') ∧ w'.id = second.id := by
  intro first second
  have hfirst : Store.empty.put first = .ok _ :=
    put_eq_ok_iff.2 ⟨by decide, none, entry_empty _, rfl, rfl⟩
  have hfound : (Store.empty.write first.id.key (putOver none first)).find first.id =
      .ok (some (putOver none first)) := by
    rw [find_eq, entry_write, if_pos rfl]
  have hkey : second.id.key = first.id.key := by decide
  have hsecond : (Store.empty.write first.id.key (putOver none first)).put second = .ok _ :=
    put_eq_ok_iff.2 ⟨by decide, _, hkey ▸ hfound, rfl, rfl⟩
  refine ⟨by decide, _, _, _, _, answerWrite_of_ok hfirst, hfound, rfl,
    answerWrite_of_ok hsecond, ?_, rfl⟩
  rw [find_eq, entry_write, if_pos hkey]

end Store

end PartitionedRollout
