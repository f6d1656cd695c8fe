/-
# PartitionedRollout.Proofs.Store.Calls -- what clients do to a store

Any number of clients call a store, one call after the other: `Calls` is the list of their calls
with the answers. `acted_perform` says once what a call can do to the entry under a key. It leaves
the entry alone, or it writes one whose version is the next, or it removes the entry. Every fact
about histories is an induction over calls that uses nothing else.
-/

import PartitionedRollout.Proofs.Store.Entry

namespace PartitionedRollout

/-! ## Calls -/

/-- The key that an operation may write to or remove. -/
def StoreOperation.target? : StoreOperation → Option String
  | .put w => some w.id.key
  | .update w => some w.id.key
  | .updateStatus id _ => some id.key
  | .delete id => some id.key
  | _ => none

/-- A client makes the operation: it is not something done to the file behind the store. -/
def StoreOperation.OfClient : StoreOperation → Prop
  | .reopen => False
  | .writeText _ _ => False
  | _ => True

/-- A call of a client, with its answer. -/
structure StoreCall where
  /-- What was asked for. -/
  operation : StoreOperation
  /-- What came back. -/
  answer : StoreAnswer

namespace StoreCall

/-- The call wrote an entry under a key. -/
def writes (key : String) : StoreCall → Bool
  | ⟨op, .stored _⟩ => op.target? = some key
  | _ => false

/-- The call removed the entry under a key. -/
def removes (key : String) : StoreCall → Bool
  | ⟨op, .removed true⟩ => op.target? = some key
  | _ => false

/-- The call changed what is under a key. -/
def hits (key : String) (c : StoreCall) : Bool :=
  c.writes key || c.removes key

/-- The call handed out a copy of a workload set. -/
def Returns (c : StoreCall) (w : WorkloadSet) : Prop :=
  match c.answer with
  | .stored stored => stored = w
  | .found found => found = some w
  | .listed l => w ∈ l
  | _ => False

end StoreCall

namespace Store

/-- Calls of clients in a row, with the stores before and after them. -/
inductive Calls (b : Backend) : Store → List StoreCall → Store → Prop where
  | nil {s : Store} : Calls b s [] s
  | cons {s t u : Store} {op : StoreOperation} {a : StoreAnswer} {calls : List StoreCall}
      (client : op.OfClient) (head : s.perform b op = (a, t)) (tail : Calls b t calls u) :
      Calls b s (⟨op, a⟩ :: calls) u

/-- Whatever is under a key can be read, and it is filed under its own key. -/
structure Sound (s : Store) : Prop where
  readable : ∀ key, ∃ o, s.entry key = .ok o
  filed : ∀ key w, s.entry key = .ok (some w) → w.id.key = key

theorem sound_empty : Sound .empty :=
  ⟨fun key => ⟨none, entry_empty key⟩, by simp⟩

theorem Sound.write {s : Store} (hs : s.Sound) {w : WorkloadSet} {key : String}
    (hkey : w.id.key = key) : (s.write key w).Sound := by
  constructor
  · intro k
    rw [entry_write]
    split
    · exact ⟨_, rfl⟩
    · exact hs.readable k
  · intro k v hv
    rw [entry_write] at hv
    split at hv
    next heq =>
      obtain rfl : w = v := Option.some.inj (Except.ok.inj hv)
      exact hkey.trans heq
    next => exact hs.filed k v hv

variable {b : Backend} {s s' : Store} {op : StoreOperation} {a : StoreAnswer}
  {calls : List StoreCall}

/-- What a call did to the entry under a key: nothing, or it wrote an entry with the next version,
or it removed the entry. -/
def Acted (s s' : Store) (c : StoreCall) (key : String) : Prop :=
  (c.hits key = false ∧ s'.entry key = s.entry key) ∨
    (c.writes key = true ∧ ∃ previous stored, c.answer = .stored stored ∧
      s.entry key = .ok previous ∧ s'.entry key = .ok (some stored) ∧ stored.id.key = key ∧
      stored.resourceVersion = nextVersion previous) ∨
    (c.removes key = true ∧ s'.entry key = .ok none)

theorem acted_of_eq (s : Store) {c : StoreCall} {key : String} (h : c.hits key = false) :
    Acted s s c key :=
  .inl ⟨h, rfl⟩

/-- A write under the target of an operation acts on every key as it should. -/
theorem acted_write {stored : WorkloadSet} {previous : Option WorkloadSet} {target : String}
    (htarget : op.target? = some target) (hentry : s.entry target = .ok previous)
    (hfiled : stored.id.key = target) (hv : stored.resourceVersion = nextVersion previous)
    (key : String) : Acted s (s.write target stored) ⟨op, .stored stored⟩ key := by
  by_cases hkey : target = key
  · subst hkey
    exact .inr (.inl ⟨by simp [StoreCall.writes, htarget], previous, stored, rfl, hentry, by simp,
      hfiled, hv⟩)
  · refine .inl ⟨?_, by simp [hkey]⟩
    simp [StoreCall.hits, StoreCall.writes, StoreCall.removes, htarget, hkey]

/-- So does an operation that is answered by a write, whether it succeeds or fails. -/
theorem acted_answerWrite {r : Except StoreError (WorkloadSet × Store)} {target : String}
    (htarget : op.target? = some target)
    (hr : ∀ stored t, r = .ok (stored, t) → ∃ previous, s.entry target = .ok previous ∧
      stored.id.key = target ∧ stored.resourceVersion = nextVersion previous ∧
      t = s.write target stored)
    (h : s.answerWrite r = (a, s')) (key : String) : Acted s s' ⟨op, a⟩ key := by
  cases r with
  | error e =>
    obtain ⟨rfl, rfl⟩ := Prod.mk.inj h
    exact acted_of_eq s rfl
  | ok p =>
    obtain ⟨stored, t⟩ := p
    obtain ⟨rfl, rfl⟩ := Prod.mk.inj h
    obtain ⟨previous, hentry, hfiled, hv, rfl⟩ := hr stored t rfl
    exact acted_write htarget hentry hfiled hv key

theorem acted_delete (s : Store) (id : WorkloadId) (key : String) :
    Acted s (s.delete id).2 ⟨.delete id, .removed (s.delete id).1⟩ key := by
  by_cases hkey : id.key = key
  · subst hkey
    cases hd : (s.delete id).1 with
    | true => exact .inr (.inr ⟨by simp [StoreCall.removes, StoreOperation.target?], by simp⟩)
    | false =>
      -- There was nothing to remove, so this is a call that hits nothing.
      have hnone : s.entry id.key = .ok none := entry_eq_none_of_free hd
      exact .inl ⟨rfl, by simp [hnone]⟩
  · refine .inl ⟨?_, by simp [hkey]⟩
    cases (s.delete id).1 <;>
      simp [StoreCall.hits, StoreCall.writes, StoreCall.removes, StoreOperation.target?, hkey]

/-- **One call.** What a call of a client does to the entry under a key. -/
theorem acted_perform (hs : s.Sound) (client : op.OfClient) (h : s.perform b op = (a, s'))
    (key : String) : Acted s s' ⟨op, a⟩ key := by
  cases op with
  | put w =>
    refine acted_answerWrite rfl ?_ h key
    intro stored t hput
    obtain ⟨-, previous, hentry, rfl, rfl⟩ := put_eq_ok_iff.1 hput
    exact ⟨previous, hentry, by simp, by simp, by simp⟩
  | update w =>
    refine acted_answerWrite rfl ?_ h key
    intro stored t hupdate
    obtain ⟨-, current, hentry, -, rfl, rfl⟩ := update_eq_ok_iff.1 hupdate
    exact ⟨some current, hentry, by simpa using hs.filed _ _ hentry, by simp, by simp⟩
  | updateStatus id f =>
    refine acted_answerWrite rfl ?_ h key
    intro stored t hstatus
    obtain ⟨current, hentry, rfl, rfl⟩ := updateStatus_eq_ok_iff.1 hstatus
    exact ⟨some current, hentry, by simpa using hs.filed _ _ hentry, by simp, by simp⟩
  | find id =>
    obtain ⟨rfl, rfl⟩ := Prod.mk.inj h
    refine acted_of_eq s ?_
    cases s.find id <;> rfl
  | list =>
    obtain ⟨rfl, rfl⟩ := Prod.mk.inj h
    refine acted_of_eq s ?_
    cases s.list <;> rfl
  | delete id =>
    obtain ⟨rfl, rfl⟩ := Prod.mk.inj h
    exact acted_delete s id key
  | reopen => exact client.elim
  | writeText _ _ => exact client.elim

/-! ## What calls hand out -/

theorem entry_of_stored (hs : s.Sound) (client : op.OfClient) {w : WorkloadSet}
    (h : s.perform b op = (.stored w, s')) : s'.entry w.id.key = .ok (some w) := by
  cases htarget : op.target? with
  | none =>
    cases op with
    | find id => cases hf : s.find id <;> simp [perform, answerRead, hf] at h
    | list => cases hl : s.list <;> simp [perform, answerRead, hl] at h
    | reopen => exact client.elim
    | writeText _ _ => exact client.elim
    | put _ | update _ | updateStatus _ _ | delete _ => simp [StoreOperation.target?] at htarget
  | some target =>
    have hwrites : (⟨op, .stored w⟩ : StoreCall).writes target = true := by
      simp [StoreCall.writes, htarget]
    rcases acted_perform hs client h target with ⟨hhits, -⟩ |
      ⟨-, _, stored, hstored, -, hentry, hkey, -⟩ | ⟨hremoves, -⟩
    · simp [StoreCall.hits, hwrites] at hhits
    · obtain rfl : w = stored := StoreAnswer.stored.inj hstored
      rwa [hkey]
    · cases hremoves

theorem answerWrite_cases {r : Except StoreError (WorkloadSet × Store)}
    (h : s.answerWrite r = (a, s')) : (∃ w, a = .stored w) ∨ ∃ e, a = .failed e := by
  cases r with
  | ok p =>
    obtain ⟨rfl, -⟩ := Prod.mk.inj h
    exact .inl ⟨_, rfl⟩
  | error e =>
    obtain ⟨rfl, -⟩ := Prod.mk.inj h
    exact .inr ⟨e, rfl⟩

/-- What a call hands out is the entry under its own key when the call returns. -/
theorem entry_of_returns (hs : s.Sound) (client : op.OfClient) (h : s.perform b op = (a, s'))
    {w : WorkloadSet} (hr : (⟨op, a⟩ : StoreCall).Returns w) :
    s'.entry w.id.key = .ok (some w) := by
  cases op with
  | put _ | update _ | updateStatus _ _ =>
    rcases answerWrite_cases h with ⟨stored, rfl⟩ | ⟨e, rfl⟩
    · obtain rfl : stored = w := hr
      exact entry_of_stored hs client h
    · exact hr.elim
  | find id =>
    obtain ⟨rfl, rfl⟩ := Prod.mk.inj h
    cases hf : s.find id with
    | error e =>
      rw [hf] at hr
      exact hr.elim
    | ok o =>
      rw [hf] at hr
      obtain rfl : o = some w := hr
      rwa [hs.filed _ _ hf]
  | list =>
    obtain ⟨rfl, rfl⟩ := Prod.mk.inj h
    cases hl : s.list with
    | error e =>
      rw [hl] at hr
      exact hr.elim
    | ok l =>
      rw [hl] at hr
      obtain ⟨key, hentry⟩ := entry_of_mem_list hl hr
      rwa [hs.filed _ _ hentry]
  | delete id =>
    obtain ⟨rfl, rfl⟩ := Prod.mk.inj h
    exact hr.elim
  | reopen => exact client.elim
  | writeText _ _ => exact client.elim

/-- Only a removal removes. -/
theorem delete_of_removes {key : String} (h : s.perform b op = (a, s'))
    (hr : (⟨op, a⟩ : StoreCall).removes key = true) : ∃ id, op = .delete id := by
  cases op with
  | delete id => exact ⟨id, rfl⟩
  | put _ | update _ | updateStatus _ _ =>
    rcases answerWrite_cases h with ⟨stored, rfl⟩ | ⟨e, rfl⟩ <;> cases hr
  | find id =>
    obtain ⟨rfl, -⟩ := Prod.mk.inj h
    cases hf : s.find id <;> rw [hf] at hr <;> cases hr
  | list =>
    obtain ⟨rfl, -⟩ := Prod.mk.inj h
    cases hl : s.list <;> rw [hl] at hr <;> cases hr
  | reopen | writeText _ _ =>
    obtain ⟨rfl, -⟩ := Prod.mk.inj h
    cases hr

/-! ## Histories -/

theorem sound_of_acted {c : StoreCall} (hs : s.Sound) (h : ∀ key, Acted s s' c key) : s'.Sound := by
  constructor
  · intro key
    rcases h key with ⟨-, hentry⟩ | ⟨-, _, stored, -, -, hentry, -⟩ | ⟨-, hentry⟩
    · rw [hentry]
      exact hs.readable key
    · exact ⟨_, hentry⟩
    · exact ⟨_, hentry⟩
  · intro key w hw
    rcases h key with ⟨-, hentry⟩ | ⟨-, _, stored, -, -, hentry, hkey, -⟩ | ⟨-, hentry⟩
    · exact hs.filed key w (hentry ▸ hw)
    · obtain rfl : stored = w := by simpa [hentry] using hw
      exact hkey
    · simp [hentry] at hw

theorem sound_perform (hs : s.Sound) (client : op.OfClient) (h : s.perform b op = (a, s')) :
    s'.Sound :=
  sound_of_acted hs (acted_perform hs client h)

theorem Calls.sound (h : Calls b s calls s') (hs : s.Sound) : s'.Sound := by
  induction h with
  | nil => exact hs
  | cons client head _ ih => exact ih (sound_perform hs client head)

end Store

end PartitionedRollout
