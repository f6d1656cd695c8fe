/-
# PartitionedRollout.Proofs.Store.Version -- what the version of an entry counts

The version of an entry is the number of writes to its key since the key was last without an entry.
An update is accepted exactly if the given version is that number, so a copy that somebody has
written over is refused as long as the key keeps its entry. A removal starts the count anew: a copy
from before it is accepted again once the key has seen as many writes as the copy's version says.
-/

import PartitionedRollout.Proofs.Store.Calls

namespace PartitionedRollout

namespace StoreCall

/-- The number of writes to a key since it was last without an entry, after one more call. -/
def tally (key : String) (n : Nat) (c : StoreCall) : Nat :=
  if c.removes key then 0 else if c.writes key then n + 1 else n

/-- The number of writes to a key after the last removal, if there was one. -/
def sinceRemoval (key : String) : List StoreCall → Option Nat
  | [] => none
  | c :: rest =>
    match sinceRemoval key rest with
    | some n => some n
    | none => if c.removes key then some (rest.countP (writes key)) else none

theorem not_removes_of_writes {key : String} {c : StoreCall} (h : c.writes key = true) :
    c.removes key = false := by
  obtain ⟨op, a⟩ := c
  cases a with
  | stored => rfl
  | _ => cases h

/-- A tally is that of the calls after the last removal; without a removal it has grown by the
number of writes. -/
theorem foldl_tally (key : String) (n : Nat) (calls : List StoreCall) :
    calls.foldl (tally key) n =
      match sinceRemoval key calls with
      | some k => k
      | none => n + calls.countP (writes key) := by
  induction calls generalizing n with
  | nil => rfl
  | cons c rest ih =>
    rw [List.foldl_cons, ih, sinceRemoval]
    cases sinceRemoval key rest with
    | some k => rfl
    | none =>
      cases hr : c.removes key with
      | true => simp [tally, hr]
      | false =>
        cases hw : c.writes key with
        | true =>
          simp only [tally, hr, hw, Bool.false_eq_true, if_false, if_true]
          rw [List.countP_cons_of_pos hw]
          show n + 1 + rest.countP (writes key) = n + (rest.countP (writes key) + 1)
          omega
        | false => simp [tally, hr, hw]

theorem not_removes_of_sinceRemoval {key : String} {calls : List StoreCall}
    (h : sinceRemoval key calls = none) : ∀ c ∈ calls, c.removes key = false := by
  induction calls with
  | nil => simp
  | cons c rest ih =>
    rw [sinceRemoval] at h
    cases hrest : sinceRemoval key rest with
    | some n => simp [hrest] at h
    | none =>
      simp only [hrest, ite_eq_right_iff, reduceCtorEq, imp_false, Bool.not_eq_true] at h
      exact List.forall_mem_cons.2 ⟨h, ih hrest⟩

theorem foldl_tally_le (key : String) (n : Nat) (calls : List StoreCall) :
    calls.foldl (tally key) n ≤ n + calls.countP (writes key) := by
  induction calls generalizing n with
  | nil => exact Nat.le_refl _
  | cons c rest ih =>
    have hstep : tally key n c ≤ n + if c.writes key then 1 else 0 := by
      unfold tally
      split
      · exact Nat.zero_le _
      · split <;> omega
    have hrest := ih (tally key n c)
    rw [List.foldl_cons, List.countP_cons]
    omega

end StoreCall

namespace Store

open StoreCall

variable {b : Backend} {s s' : Store} {key : String} {n : Nat}

/-- `n` writes have been made to a key since it was last without an entry, and the version of the
entry says so. -/
def Counted (s : Store) (key : String) (n : Nat) : Prop :=
  (n = 0 ∧ s.entry key = .ok none) ∨
    ∃ w, 0 < n ∧ s.entry key = .ok (some w) ∧ w.resourceVersion = .ofNat n

theorem counted_of_acted {c : StoreCall} (h : Counted s key n) (ha : Acted s s' c key) :
    Counted s' key (tally key n c) := by
  rcases ha with ⟨hhits, hentry⟩ | ⟨hwrites, previous, stored, -, hentry, hentry', -, hv⟩ |
    ⟨hremoves, hentry⟩
  · obtain ⟨hw, hr⟩ : c.writes key = false ∧ c.removes key = false := by
      simpa [StoreCall.hits] using hhits
    simpa [Counted, tally, hw, hr, hentry] using h
  · -- A write finds the version that was counted, or none, and leaves the next one.
    have htally : tally key n c = n + 1 := by
      simp [tally, hwrites, not_removes_of_writes hwrites]
    rw [htally]
    refine .inr ⟨stored, Nat.succ_pos n, hentry', ?_⟩
    rcases h with ⟨rfl, hnone⟩ | ⟨w, -, hsome, hw⟩
    · obtain rfl : previous = none := by simpa [hentry] using hnone
      exact hv
    · obtain rfl : previous = some w := by simpa [hentry] using hsome
      rw [hv, nextVersion, hw, UInt64.ofNat_add]
      rfl
  · exact .inl ⟨by simp [tally, hremoves], hentry⟩

/-- **Counting.** Along calls of clients the version keeps counting the writes since the key was
last without an entry. -/
theorem Calls.counted {calls : List StoreCall} (h : Calls b s calls s') (hs : s.Sound)
    (hc : Counted s key n) : Counted s' key (calls.foldl (tally key) n) := by
  induction h generalizing n with
  | nil => exact hc
  | cons client head _ ih =>
    have hacted := acted_perform hs client head
    exact ih (sound_of_acted hs hacted) (counted_of_acted hc (hacted key))

theorem counted_empty (key : String) : Counted .empty key 0 :=
  .inl ⟨rfl, rfl⟩

/-- An admissible update is refused exactly if its version is not the number of writes. -/
theorem update_refused_iff {w : WorkloadSet} (h : Counted s w.id.key n) (hn : n < UInt64.size)
    (hspec : w.spec.fault? = none) :
    (∃ e, s.perform b (.update w) = (.failed e, s) ∧ (e.isConflict ∨ e.isNotFound)) ↔
      n = 0 ∨ n ≠ w.resourceVersion.toNat := by
  rcases h with ⟨rfl, hnone⟩ | ⟨current, hpos, hentry, hv⟩
  · have hupdate := update_of_no_entry hspec hnone
    exact iff_of_true ⟨_, answerWrite_of_error hupdate, .inr rfl⟩ (.inl rfl)
  · have hversion : current.resourceVersion.toNat = n := by
      rw [hv, UInt64.toNat_ofNat_of_lt' hn]
    by_cases heq : current.resourceVersion = w.resourceVersion
    · have hupdate : s.update w = .ok _ :=
        update_eq_ok_iff.2 ⟨hspec, current, hentry, heq, rfl, rfl⟩
      refine iff_of_false ?_ ?_
      · rintro ⟨e, he, -⟩
        cases (answerWrite_of_ok hupdate).symm.trans he
      · rintro (hzero | hne)
        · omega
        · exact hne (by rw [← hversion, heq])
    · have hupdate := update_of_version_ne hspec hentry heq
      refine iff_of_true ⟨_, answerWrite_of_error hupdate, .inl rfl⟩ (.inr ?_)
      rw [← hversion]
      exact fun h => heq (UInt64.toNat_inj.1 h)

/-- **Stale copies.** A client holds a copy that some call returned, and afterwards some call hit
the key. An update with the identity and version of the copy is refused, and leaves the store as it
was, except in one case: the key has been removed since, and has seen exactly as many writes after
the last removal as the version of the copy says. The writes to the key must not be more than a
version can count. -/
theorem stale_update_refused_iff {calls later : List StoreCall} {r : Store} {op : StoreOperation}
    {a : StoreAnswer} {copy w : WorkloadSet} (hcalls : Calls b .empty calls r)
    (client : op.OfClient) (hcall : r.perform b op = (a, s))
    (hcopy : (⟨op, a⟩ : StoreCall).Returns copy) (hlater : Calls b s later s')
    (hhit : ∃ c ∈ later, c.hits copy.id.key = true)
    (hbound : (calls ++ ⟨op, a⟩ :: later).countP (writes copy.id.key) < UInt64.size)
    (hid : w.id = copy.id) (hversion : w.resourceVersion = copy.resourceVersion)
    (hspec : w.spec.fault? = none) :
    (∃ e, s'.perform b (.update w) = (.failed e, s') ∧ (e.isConflict ∨ e.isNotFound)) ↔
      sinceRemoval copy.id.key later ≠ some copy.resourceVersion.toNat := by
  have hr : r.Sound := hcalls.sound sound_empty
  have hacted := acted_perform hr client hcall
  have hentry : s.entry copy.id.key = .ok (some copy) := entry_of_returns hr client hcall hcopy
  -- The version of the copy is the tally of the calls up to the one that returned it.
  have hbefore := hcalls.counted sound_empty (counted_empty copy.id.key)
  have hcounted := counted_of_acted hbefore (hacted copy.id.key)
  generalize hn : tally copy.id.key (calls.foldl (tally copy.id.key) 0) ⟨op, a⟩ = n at hcounted
  have hlatest := hlater.counted (sound_of_acted hr hacted) hcounted
  have hall : later.foldl (tally copy.id.key) n < UInt64.size := by
    have hle := foldl_tally_le copy.id.key 0 (calls ++ ⟨op, a⟩ :: later)
    rw [List.foldl_append, List.foldl_cons, hn] at hle
    exact Nat.lt_of_le_of_lt hle (by simpa using hbound)
  have hfirst : n < UInt64.size := by
    have hle := foldl_tally_le copy.id.key 0 (calls ++ [⟨op, a⟩])
    rw [List.foldl_append, List.foldl_cons, hn] at hle
    refine Nat.lt_of_le_of_lt hle ?_
    simp only [List.countP_append, List.countP_cons] at hbound ⊢
    show _ < UInt64.size
    simp
    omega
  obtain ⟨hpos, hcopied⟩ : 0 < n ∧ copy.resourceVersion.toNat = n := by
    rcases hcounted with ⟨-, hnone⟩ | ⟨current, hpos, hsome, hv⟩
    · simp [hentry] at hnone
    · obtain rfl : copy = current := by simpa [hentry] using hsome
      exact ⟨hpos, by rw [hv, UInt64.toNat_ofNat_of_lt' hfirst]⟩
  rw [← hid] at hlatest
  rw [update_refused_iff hlatest (by rwa [hid]) hspec, hversion, hcopied, hid, foldl_tally]
  cases hremoval : sinceRemoval copy.id.key later with
  | some k =>
    simp only [ne_eq, Option.some.injEq]
    omega
  | none =>
    obtain ⟨c, hc, hhits⟩ := hhit
    have hwrites : c.writes copy.id.key = true := by
      simpa [StoreCall.hits, not_removes_of_sinceRemoval hremoval c hc] using hhits
    have hcount : 0 < later.countP (writes copy.id.key) := List.countP_pos_iff.2 ⟨c, hc, hwrites⟩
    simp only [ne_eq, reduceCtorEq, not_false_eq_true, iff_true]
    omega

/-! ## Entries that are still there -/

/-- The entry has been written `n` times since it was `base`, and it was never removed. -/
def Aged (base : WorkloadSet) (n : Nat) (s : Store) : Prop :=
  ∃ current, s.entry base.id.key = .ok (some current) ∧
    current.resourceVersion = base.resourceVersion + .ofNat n ∧ (n = 0 → current = base)

theorem aged_zero {base : WorkloadSet} (h : s.entry base.id.key = .ok (some base)) :
    Aged base 0 s :=
  ⟨base, h, by simp, fun _ => rfl⟩

theorem aged_of_acted {c : StoreCall} {base : WorkloadSet} (h : Aged base n s)
    (ha : Acted s s' c base.id.key) (hkeeps : c.removes base.id.key = false) :
    ∃ m ≤ n + 1, Aged base m s' := by
  obtain ⟨current, hentry, hv, hsame⟩ := h
  rcases ha with ⟨-, heq⟩ | ⟨-, previous, stored, -, hbefore, hafter, -, hnext⟩ | ⟨hremoves, -⟩
  · exact ⟨n, Nat.le_succ n, current, heq ▸ hentry, hv, hsame⟩
  · obtain rfl : previous = some current := by simpa [hbefore] using hentry
    refine ⟨n + 1, Nat.le_refl _, stored, hafter, ?_, fun h => absurd h (Nat.succ_ne_zero n)⟩
    rw [hnext, nextVersion, hv, UInt64.ofNat_add, UInt64.add_assoc]
    rfl
  · rw [hkeeps] at hremoves
    cases hremoves

/-- Along calls none of which removes a set, the version keeps up with the writes. -/
theorem Calls.aged {calls : List StoreCall} {base : WorkloadSet} (h : Calls b s calls s')
    (hs : s.Sound) (hkeeps : ∀ c ∈ calls, ∀ id, c.operation ≠ .delete id) (ha : Aged base n s) :
    ∃ m ≤ n + calls.length, Aged base m s' := by
  induction h generalizing n with
  | nil => exact ⟨n, Nat.le_refl _, ha⟩
  | @cons s t u op a calls client head _ ih =>
    have hacted := acted_perform hs client head
    have hno : (⟨op, a⟩ : StoreCall).removes base.id.key = false := by
      rw [Bool.eq_false_iff]
      intro hr
      obtain ⟨id, rfl⟩ := delete_of_removes head hr
      exact hkeeps _ List.mem_cons_self id rfl
    obtain ⟨m, hm, hat⟩ := aged_of_acted ha (hacted _) hno
    obtain ⟨k, hk, hau⟩ := ih (sound_of_acted hs hacted)
      (fun c hc => hkeeps c (List.mem_cons_of_mem _ hc)) hat
    exact ⟨k, by rw [List.length_cons]; omega, hau⟩

/-- **An equal version means an unchanged entry**, as long as the versions have not gone round. -/
theorem Aged.eq_of_version {base current : WorkloadSet} (h : Aged base n s) (hn : n < UInt64.size)
    (hentry : s.entry base.id.key = .ok (some current))
    (hv : current.resourceVersion = base.resourceVersion) : current = base := by
  obtain ⟨found, hfound, hversion, hsame⟩ := h
  obtain rfl : found = current := by simpa [hfound] using hentry
  refine hsame ?_
  have hzero : UInt64.ofNat n = 0 := by
    rw [hv] at hversion
    simpa using hversion.symm
  have hnat := congrArg UInt64.toNat hzero
  rwa [UInt64.toNat_ofNat_of_lt' hn] at hnat

/-! ## Two histories of one set -/

/-- A set with one replica of an image. -/
def single (image : String) : WorkloadSet :=
  .ofSpec ⟨"db", "a"⟩ 1 (.ofImage image)

/-- A status written in between makes the copy stale. -/
theorem stale_update_refused_after_status :
    ∃ s s' stored, Calls .memory s [⟨.updateStatus ⟨"db", "a"⟩ id, .stored stored⟩] s' ∧
      ∃ e, s'.perform .memory (.update (putOver none (single "v1"))) = (.failed e, s') ∧
        (e.isConflict ∨ e.isNotFound) := by
  let copy := putOver none (single "v1")
  let s := Store.empty.write "db/a" copy
  have hentry : s.entry "db/a" = .ok (some copy) := by simp [s]
  have hstatus : s.updateStatus ⟨"db", "a"⟩ id =
      .ok (withStatus copy id, s.write "db/a" (withStatus copy id)) :=
    updateStatus_eq_ok_iff.2 ⟨copy, hentry, rfl, rfl⟩
  have hlater : Calls .memory s [⟨.updateStatus ⟨"db", "a"⟩ id, .stored (withStatus copy id)⟩]
      (s.write "db/a" (withStatus copy id)) :=
    .cons trivial (answerWrite_of_ok hstatus) .nil
  have hclient : (StoreOperation.put (single "v1")).OfClient := trivial
  have hspec : (putOver none (single "v1")).spec.fault? = none := rfl
  have hput : Store.empty.perform .memory (.put (single "v1")) = (.stored copy, s) := rfl
  refine ⟨s, _, _, hlater, ?_⟩
  refine (stale_update_refused_iff .nil hclient hput rfl hlater ?_ ?_ rfl rfl hspec).2 ?_
  · exact ⟨_, List.mem_singleton_self _, rfl⟩
  · decide
  · decide

/-- A set that was removed and created anew by somebody else is overwritten through a copy from
before. -/
theorem recreated_set_overwritten :
    ∃ s s' s'' stored,
      Calls .memory .empty [⟨.put (single "v1"), .stored (putOver none (single "v1"))⟩] s ∧
      Calls .memory s [⟨.delete ⟨"db", "a"⟩, .removed true⟩,
        ⟨.put (single "v2"), .stored (putOver none (single "v2"))⟩] s' ∧
      s'.perform .memory (.update (putOver none (single "v1"))) = (.stored stored, s'') ∧
      stored.spec.template = .ofImage "v1" := by
  let s := Store.empty.write "db/a" (putOver none (single "v1"))
  let s' := (s.delete ⟨"db", "a"⟩).2.write "db/a" (putOver none (single "v2"))
  have hentry : s'.entry "db/a" = .ok (some (putOver none (single "v2"))) := by simp [s']
  have hupdate : s'.update (putOver none (single "v1")) = .ok _ :=
    update_eq_ok_iff.2 ⟨rfl, _, hentry, rfl, rfl, rfl⟩
  exact ⟨s, s', _, _, .cons trivial rfl .nil, .cons trivial rfl (.cons trivial rfl .nil),
    answerWrite_of_ok hupdate, rfl⟩

end Store

end PartitionedRollout
