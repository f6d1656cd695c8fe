/-
# PartitionedRollout.Proofs.Store.Catalog -- a store is a map

A store keeps texts in a table. Seen from outside it is a plain map from keys to workload sets:
`Catalog.Step` is the list of rules by which such a map answers, and it mentions neither texts nor
tables. `step_perform` is the square for one operation. By it every sequence of operations gets the
answers that the rules give, and no others, since the rules leave no choice.
-/

import PartitionedRollout.Proofs.Store.Entry
import PartitionedRollout.Proofs.Text.ByteOrder

namespace PartitionedRollout

open Text

/-- A map from keys to workload sets. -/
abbrev Catalog := String → Option WorkloadSet

namespace Catalog

/-- The map without entries. -/
def empty : Catalog :=
  fun _ => none

/-- The map with something else, or nothing, under a key. -/
def set (m : Catalog) (key : String) (o : Option WorkloadSet) : Catalog :=
  fun k => if key = k then o else m k

/-- The list has every entry once, in the order of the bytes of the keys. -/
def Lists (m : Catalog) (l : List WorkloadSet) : Prop :=
  ∃ keys : List String, keys.Pairwise (fun k k' => utf8 k < utf8 k') ∧
    (∀ key, key ∈ keys ↔ (m key).isSome) ∧ keys.map m = l.map some

/-! ## The rules -/

/-- What a map answers to an operation, and the map after it. -/
inductive Step (m : Catalog) : StoreOperation → StoreAnswer → Catalog → Prop where
  | putInvalid {w : WorkloadSet} {fault : SpecFault} (invalid : w.spec.fault? = some fault) :
      Step m (.put w) (.failed (.status 422 "Invalid" fault.message)) m
  /-- The first write under a key starts both numbers, whatever the given set carries. -/
  | putNew {w stored : WorkloadSet} (valid : w.spec.fault? = none) (absent : m w.id.key = none)
      (result : stored = { w with resourceVersion := 1, generation := 1 }) :
      Step m (.put w) (.stored stored) (m.set w.id.key stored)
  /-- A later one goes on from the numbers of the entry. -/
  | putOver {w current stored : WorkloadSet} (valid : w.spec.fault? = none)
      (present : m w.id.key = some current)
      (result : stored = { w with
        resourceVersion := current.resourceVersion + 1
        generation := if current.spec = w.spec then current.generation
          else current.generation + 1 }) :
      Step m (.put w) (.stored stored) (m.set w.id.key stored)
  /-- A fault is reported before anything is looked up. -/
  | updateInvalid {w : WorkloadSet} {fault : SpecFault} (invalid : w.spec.fault? = some fault) :
      Step m (.update w) (.failed (.status 422 "Invalid" fault.message)) m
  | updateMissing {w : WorkloadSet} (valid : w.spec.fault? = none)
      (absent : m w.id.key = none) : Step m (.update w) (.failed (.notFound w.id.key)) m
  | updateStale {w current : WorkloadSet} (valid : w.spec.fault? = none)
      (present : m w.id.key = some current) (stale : current.resourceVersion ≠ w.resourceVersion) :
      Step m (.update w)
        (.failed (.conflict w.id.key w.resourceVersion current.resourceVersion)) m
  /-- The specification is the given one; status and identity are those of the entry. -/
  | update {w current stored : WorkloadSet} (valid : w.spec.fault? = none)
      (present : m w.id.key = some current) (fresh : current.resourceVersion = w.resourceVersion)
      (result : stored = { current with
        spec := w.spec
        resourceVersion := current.resourceVersion + 1
        generation := if current.spec = w.spec then current.generation
          else current.generation + 1 }) :
      Step m (.update w) (.stored stored) (m.set w.id.key stored)
  | statusMissing {id : WorkloadId} {f : WorkloadStatus → WorkloadStatus}
      (absent : m id.key = none) : Step m (.updateStatus id f) (.failed (.notFound id.key)) m
  | status {id : WorkloadId} {f : WorkloadStatus → WorkloadStatus} {current stored : WorkloadSet}
      (present : m id.key = some current)
      (result : stored = { current with
        status := f current.status, resourceVersion := current.resourceVersion + 1 }) :
      Step m (.updateStatus id f) (.stored stored) (m.set id.key stored)
  | find {id : WorkloadId} : Step m (.find id) (.found (m id.key)) m
  | list {l : List WorkloadSet} (all : m.Lists l) : Step m .list (.listed l) m
  | delete {id : WorkloadId} :
      Step m (.delete id) (.removed (m id.key).isSome) (m.set id.key none)
  | reopen : Step m .reopen .opened m

/-- The answers of a map to operations in a row, and the map after them. -/
inductive Run : Catalog → List StoreOperation → List StoreAnswer → Catalog → Prop where
  | nil {m : Catalog} : Run m [] [] m
  | cons {m m' m'' : Catalog} {op : StoreOperation} {a : StoreAnswer} {ops : List StoreOperation}
      {answers : List StoreAnswer} (head : m.Step op a m') (tail : Run m' ops answers m'') :
      Run m (op :: ops) (a :: answers) m''

variable {m m' m'' : Catalog} {op : StoreOperation} {a a' : StoreAnswer}

/-- A list of all entries is determined by the map. -/
theorem Lists.unique {l l' : List WorkloadSet} (h : m.Lists l) (h' : m.Lists l') : l = l' := by
  obtain ⟨keys, hsorted, hkeys, hl⟩ := h
  obtain ⟨keys', hsorted', hkeys', hl'⟩ := h'
  -- Two lists of the same keys in the same strict order are equal.
  have hsame : keys = keys' := by
    have hirrefl : ∀ k k' : String, utf8 k < utf8 k' → k ≠ k' := by
      rintro k _ hlt rfl
      exact List.lt_irrefl _ hlt
    have hperm : keys.Perm keys' :=
      (List.perm_ext_iff_of_nodup (hsorted.imp (hirrefl _ _)) (hsorted'.imp (hirrefl _ _))).2
        fun key => (hkeys key).trans (hkeys' key).symm
    refine hperm.eq_of_pairwise ?_ hsorted hsorted'
    intro k k' _ _ hlt hgt
    exact absurd hgt (List.lt_asymm hlt)
  subst hsame
  exact (List.map_inj_right fun _ _ => Option.some.inj).1 (hl.symm.trans hl')

/-- The rules leave no choice. -/
theorem Step.unique (h : m.Step op a m') (h' : m.Step op a' m'') : a = a' ∧ m' = m'' := by
  cases h <;> cases h' <;> simp_all
  next l hl l' hl' => exact hl.unique hl'

theorem Run.unique {ops : List StoreOperation} {answers answers' : List StoreAnswer}
    (h : Run m ops answers m') (h' : Run m ops answers' m'') : answers = answers' ∧ m' = m'' := by
  induction h generalizing answers' with
  | nil =>
    cases h'
    exact ⟨rfl, rfl⟩
  | cons head _ ih =>
    cases h' with
    | cons head' tail' =>
      obtain ⟨rfl, rfl⟩ := head.unique head'
      obtain ⟨rfl, rfl⟩ := ih tail'
      exact ⟨rfl, rfl⟩

end Catalog

/-! ## Sessions with a store -/

/-- The operation is one that a session with a store is made of. What is kept in memory is lost when
it is closed, so there closing ends the session, and nobody writes texts behind a store's back. -/
def StoreOperation.OfSession (b : Backend) : StoreOperation → Prop
  | .reopen => b = .disk
  | .writeText _ _ => False
  | _ => True

namespace Store

/-- The answers to operations in a row, and the store after them. -/
def performAll (b : Backend) (s : Store) : List StoreOperation → List StoreAnswer × Store
  | [] => ([], s)
  | op :: ops =>
    let (a, s') := s.perform b op
    let (answers, s'') := s'.performAll b ops
    (a :: answers, s'')

/-- Every entry can be read, and it is that of the map. -/
def Represents (s : Store) (m : Catalog) : Prop :=
  ∀ key, s.entry key = .ok (m key)

theorem represents_empty : Represents .empty .empty :=
  entry_empty

variable {b : Backend} {s s' : Store} {m m' : Catalog} {op : StoreOperation} {a : StoreAnswer}
  {ops : List StoreOperation} {answers : List StoreAnswer}

/-- A store represents only one map. -/
theorem Represents.unique (h : s.Represents m) (h' : s.Represents m') : m = m' :=
  funext fun key => Except.ok.inj ((h key).symm.trans (h' key))

theorem Represents.write (h : s.Represents m) (key : String) (w : WorkloadSet) :
    (s.write key w).Represents (m.set key w) := by
  intro k
  by_cases hk : key = k <;> simp [Catalog.set, hk, h k]

theorem Represents.delete (h : s.Represents m) (id : WorkloadId) :
    (s.delete id).2.Represents (m.set id.key none) := by
  intro k
  by_cases hk : id.key = k <;> simp [Catalog.set, hk, h k]

/-- A written form under a key is that of the entry of the map. -/
theorem Represents.decode_of_get? (h : s.Represents m) {key : String} {text : List Char}
    (htext : s.table.get? key = some text) : ∃ w, decode text = .ok w ∧ m key = some w := by
  have hentry := h key
  rw [entry, htext] at hentry
  cases hdecode : decode text with
  | error e => simp [hdecode, Except.map] at hentry
  | ok w =>
    simp only [hdecode, Except.map, Except.ok.injEq] at hentry
    exact ⟨w, rfl, hentry.symm⟩

/-- The table has a key if the map does. -/
theorem Represents.isSome_get? (h : s.Represents m) (key : String) :
    (s.table.get? key).isSome = (m key).isSome := by
  cases htext : s.table.get? key with
  | none =>
    have hentry := h key
    rw [entry, htext] at hentry
    rw [← Except.ok.inj hentry]
    rfl
  | some text =>
    obtain ⟨w, -, hw⟩ := h.decode_of_get? htext
    rw [hw]
    rfl

/-- Written entries that a map has are read back in their order. -/
theorem mapM_decode_of_entries {entries : List (String × List Char)}
    (h : ∀ e ∈ entries, ∃ w, decode e.2 = .ok w ∧ m e.1 = some w) :
    ∃ l, (entries.map Prod.snd).mapM decode = .ok l ∧
      (entries.map Prod.fst).map m = l.map some := by
  induction entries with
  | nil => exact ⟨[], rfl, rfl⟩
  | cons e entries ih =>
    obtain ⟨w, hdecode, hw⟩ := h e List.mem_cons_self
    obtain ⟨l, hl, hkeys⟩ := ih fun e' he' => h e' (List.mem_cons_of_mem e he')
    refine ⟨w :: l, ?_, ?_⟩
    · rw [List.map_cons, List.mapM_cons, hdecode, hl]
      rfl
    · rw [List.map_cons, List.map_cons, hw, hkeys, List.map_cons]

/-- A store lists the entries of the map that it represents. -/
theorem Represents.list (h : s.Represents m) : ∃ l, s.list = .ok l ∧ m.Lists l := by
  have hentries : ∀ e ∈ s.table.entries, ∃ w, decode e.2 = .ok w ∧ m e.1 = some w :=
    fun e he => h.decode_of_get? (TextMap.get?_of_mem_entries he)
  obtain ⟨l, hl, hkeys⟩ := mapM_decode_of_entries hentries
  refine ⟨l, hl, s.table.keys, ?_, ?_, hkeys⟩
  · exact List.pairwise_map.2 (s.table.increasing.imp fun hlt => lt_iff_utf8_lt.1 hlt)
  · intro key
    rw [TextMap.mem_keys_iff, h.isSome_get?]

/-! ## The square -/

/-- A store answers an operation by the rules of a map, and represents the map after it. -/
def Follows (b : Backend) (s : Store) (m : Catalog) (op : StoreOperation) : Prop :=
  ∃ m', m.Step op (s.perform b op).1 m' ∧ (s.perform b op).2.Represents m'

theorem Represents.step_put (h : s.Represents m) (w : WorkloadSet) : Follows b s m (.put w) := by
  simp only [Follows, perform]
  cases hspec : w.spec.fault? with
  | some fault =>
    rw [answerWrite_of_error (put_of_fault hspec)]
    exact ⟨m, .putInvalid hspec, h⟩
  | none =>
    have hput := put_eq_ok_iff.2 ⟨hspec, m w.id.key, h w.id.key, rfl, rfl⟩
    rw [answerWrite_of_ok hput]
    refine ⟨_, ?_, h.write _ _⟩
    cases hentry : m w.id.key with
    | none => exact .putNew hspec hentry rfl
    | some current => exact .putOver hspec hentry rfl

theorem Represents.step_update (h : s.Represents m) (w : WorkloadSet) :
    Follows b s m (.update w) := by
  simp only [Follows, perform]
  cases hspec : w.spec.fault? with
  | some fault =>
    rw [answerWrite_of_error (update_of_fault hspec)]
    exact ⟨m, .updateInvalid hspec, h⟩
  | none =>
    have hread := h w.id.key
    cases hentry : m w.id.key with
    | none =>
      rw [answerWrite_of_error (update_of_no_entry hspec (hentry ▸ hread))]
      exact ⟨m, .updateMissing hspec hentry, h⟩
    | some current =>
      rw [hentry] at hread
      by_cases hv : current.resourceVersion = w.resourceVersion
      · have hupdate := update_eq_ok_iff.2 ⟨hspec, current, hread, hv, rfl, rfl⟩
        rw [answerWrite_of_ok hupdate]
        exact ⟨_, .update hspec hentry hv rfl, h.write _ _⟩
      · rw [answerWrite_of_error (update_of_version_ne hspec hread hv)]
        exact ⟨m, .updateStale hspec hentry hv, h⟩

theorem Represents.step_updateStatus (h : s.Represents m) (id : WorkloadId)
    (f : WorkloadStatus → WorkloadStatus) : Follows b s m (.updateStatus id f) := by
  simp only [Follows, perform]
  have hread := h id.key
  cases hentry : m id.key with
  | none =>
    rw [answerWrite_of_error (updateStatus_of_no_entry (hentry ▸ hread))]
    exact ⟨m, .statusMissing hentry, h⟩
  | some current =>
    have hstatus : s.updateStatus id f = .ok _ :=
      updateStatus_eq_ok_iff.2 ⟨current, hentry ▸ hread, rfl, rfl⟩
    rw [answerWrite_of_ok hstatus]
    exact ⟨_, .status hentry rfl, h.write _ _⟩

/-- **One operation.** A store that represents a map follows the rules of the map. -/
theorem Represents.step (h : s.Represents m) (hop : op.OfSession b) : Follows b s m op := by
  cases op with
  | put w => exact h.step_put w
  | update w => exact h.step_update w
  | updateStatus id f => exact h.step_updateStatus id f
  | find id =>
    have hfind : s.find id = .ok (m id.key) := h id.key
    refine ⟨m, ?_, h⟩
    simp only [perform, hfind, answerRead]
    exact .find
  | list =>
    obtain ⟨l, hl, hall⟩ := h.list
    refine ⟨m, ?_, h⟩
    simp only [perform, hl, answerRead]
    exact .list hall
  | delete id =>
    refine ⟨_, ?_, h.delete id⟩
    have hremoved : (s.delete id).1 = (m id.key).isSome := h.isSome_get? id.key
    simp only [perform, hremoved]
    exact .delete
  | reopen =>
    obtain rfl : b = .disk := hop
    exact ⟨m, .reopen, h⟩
  | writeText _ _ => exact hop.elim

theorem Represents.run (h : s.Represents m) (hops : ∀ op ∈ ops, op.OfSession b) :
    ∃ m', Catalog.Run m ops (s.performAll b ops).1 m' ∧ (s.performAll b ops).2.Represents m' := by
  induction ops generalizing s m with
  | nil => exact ⟨m, .nil, h⟩
  | cons op ops ih =>
    obtain ⟨m', hstep, h'⟩ := h.step (hops op List.mem_cons_self)
    obtain ⟨m'', hrun, h''⟩ := ih h' fun op' hop' => hops op' (List.mem_cons_of_mem op hop')
    exact ⟨m'', .cons hstep hrun, h''⟩

/-- A run by the rules of the map says what the store answers. -/
theorem Represents.follows_run (h : s.Represents m) (hops : ∀ op ∈ ops, op.OfSession b)
    (hrun : Catalog.Run m ops answers m') :
    (s.performAll b ops).1 = answers ∧ (s.performAll b ops).2.Represents m' := by
  obtain ⟨m'', hperformed, hrepresents⟩ := h.run hops
  obtain ⟨rfl, rfl⟩ := hperformed.unique hrun
  exact ⟨rfl, hrepresents⟩

theorem eq_of_answerWrite_failed {r : Except StoreError (WorkloadSet × Store)} {e : StoreError}
    (h : s.answerWrite r = (.failed e, s')) : s' = s := by
  cases r with
  | ok p => cases (Prod.mk.inj h).1
  | error cause => exact (Prod.mk.inj h).2.symm

/-- An operation that fails leaves the store as it was. -/
theorem eq_of_failed {e : StoreError} (h : s.perform b op = (.failed e, s')) : s' = s := by
  cases op with
  | put _ | update _ | updateStatus _ _ => exact eq_of_answerWrite_failed h
  | find _ | list => exact (Prod.mk.inj h).2.symm
  | delete _ | reopen | writeText _ _ => cases (Prod.mk.inj h).1

/-- **A store is a map.** The answers of a new store to the operations of a session are those that
the rules of a map give from the empty map on, no more and no less, and the store then represents
the map to which the rules lead. An operation that fails leaves every entry as it was. -/
theorem performAll_eq_iff_run (hops : ∀ op ∈ ops, op.OfSession b) :
    (Catalog.Run .empty ops answers m ↔
      (Store.empty.performAll b ops).1 = answers ∧ (Store.empty.performAll b ops).2.Represents m) ∧
    ∀ (s s' : Store) (op : StoreOperation) (e : StoreError),
      s.perform b op = (.failed e, s') → s' = s := by
  refine ⟨⟨represents_empty.follows_run hops, ?_⟩, fun _ _ _ _ => eq_of_failed⟩
  rintro ⟨rfl, h⟩
  obtain ⟨m', hrun, hrepresents⟩ := represents_empty.run hops
  obtain rfl := hrepresents.unique h
  exact hrun

/-- Two sets are put, the one with the larger key first. A status write makes the copy of it stale,
also across a restart, and the list is in the order of the keys. -/
theorem performAll_eq_iff_run_restarted :
    ∃ first second reported,
      (Store.empty.performAll .disk [.put (.ofSpec ⟨"db", "é"⟩ 1 (.ofImage "v1")),
        .put (.ofSpec ⟨"db", "z"⟩ 2 (.ofImage "v1")), .updateStatus ⟨"db", "é"⟩ id, .reopen,
        .update first, .list]).1 =
      [.stored first, .stored second, .stored reported, .opened,
        .failed (.conflict "db/é" 1 2), .listed [second, reported]] := by
  let first : WorkloadSet :=
    { WorkloadSet.ofSpec ⟨"db", "é"⟩ 1 (.ofImage "v1") with resourceVersion := 1, generation := 1 }
  let second : WorkloadSet :=
    { WorkloadSet.ofSpec ⟨"db", "z"⟩ 2 (.ofImage "v1") with resourceVersion := 1, generation := 1 }
  let reported : WorkloadSet := { first with resourceVersion := 2 }
  let m : Catalog := ((Catalog.empty.set "db/é" first).set "db/z" second).set "db/é" reported
  have hlists : m.Lists [second, reported] := by
    refine ⟨["db/z", "db/é"], ?_, ?_, rfl⟩
    · exact List.pairwise_pair.2 (utf8_lt_of_lt (by decide))
    · intro key
      by_cases he : "db/é" = key
      · simp [m, Catalog.set, ← he]
      · by_cases hz : "db/z" = key
        · simp [m, Catalog.set, ← hz]
        · simp [m, Catalog.set, Catalog.empty, he, hz, Ne.symm he, Ne.symm hz]
  have hstatus : Catalog.Step ((Catalog.empty.set "db/é" first).set "db/z" second)
      (.updateStatus ⟨"db", "é"⟩ id) (.stored reported) m :=
    .status rfl rfl
  have hentry : m "db/é" = some reported := by simp [m, Catalog.set]
  have hstale : m.Step (.update first) (.failed (.conflict "db/é" 1 2)) m :=
    .updateStale (w := first) (by decide) hentry (by decide)
  have hrun : Catalog.Run .empty [.put (.ofSpec ⟨"db", "é"⟩ 1 (.ofImage "v1")),
      .put (.ofSpec ⟨"db", "z"⟩ 2 (.ofImage "v1")), .updateStatus ⟨"db", "é"⟩ id, .reopen,
      .update first, .list]
      [.stored first, .stored second, .stored reported, .opened,
        .failed (.conflict "db/é" 1 2), .listed [second, reported]] m :=
    .cons (.putNew rfl rfl rfl) <| .cons (.putNew rfl rfl rfl) <|
      .cons hstatus <| .cons .reopen <| .cons hstale <| .cons (.list hlists) .nil
  refine ⟨first, second, reported, ((performAll_eq_iff_run ?_).1.1 hrun).1⟩
  simp [StoreOperation.OfSession]

end Store

end PartitionedRollout
