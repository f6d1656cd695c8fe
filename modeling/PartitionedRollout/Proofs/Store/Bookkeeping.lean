/-
# PartitionedRollout.Proofs.Store.Bookkeeping -- the numbers of an entry and its history

An entry carries two numbers. Here both are read off the history of its key: the sets that were
written under the key since it was last without an entry. The version is how many they are, and the
generation says in how many of them, after the first, the specification changed. Writes come in
three kinds with rules of their own, so `Step.acted` first says what all of them have in common; the
law is then an induction over the operations of a session.
-/

import Mathlib.Data.List.Forall2
import PartitionedRollout.Proofs.Store.Catalog
import PartitionedRollout.Proofs.Store.Version

namespace PartitionedRollout

/-! ## Histories of a key -/

namespace StoreCall

/-- The sets written under a key since it was last without an entry, the latest first, after one
more call. -/
def record (key : String) (written : List WorkloadSet) (c : StoreCall) : List WorkloadSet :=
  match c.answer with
  | .stored w => if c.writes key then w :: written else written
  | _ => if c.removes key then [] else written

/-- The sets that calls in a row have written under a key since it was last without an entry, the
latest first. -/
def written (key : String) (calls : List StoreCall) : List WorkloadSet :=
  calls.foldl (record key) []

theorem record_of_stored {key : String} {op : StoreOperation} {w : WorkloadSet}
    (h : op.target? = some key) (sets : List WorkloadSet) :
    record key sets ⟨op, .stored w⟩ = w :: sets := by
  simp [record, writes, h]

theorem record_of_removed {key : String} {op : StoreOperation} (h : op.target? = some key)
    (sets : List WorkloadSet) : record key sets ⟨op, .removed true⟩ = [] := by
  simp [record, removes, h]

theorem record_of_not_hits {key : String} {c : StoreCall} (h : c.hits key = false)
    (sets : List WorkloadSet) : record key sets c = sets := by
  obtain ⟨hw, hr⟩ : c.writes key = false ∧ c.removes key = false := by
    simpa [hits] using h
  obtain ⟨op, a⟩ := c
  cases a <;> simp [record, hw, hr]

/-- A call lengthens the history of a key as it raises the number of writes. -/
theorem length_record (key : String) (sets : List WorkloadSet) (c : StoreCall) :
    (record key sets c).length = tally key sets.length c := by
  obtain ⟨op, a⟩ := c
  cases a with
  | stored w => cases hw : writes key ⟨op, .stored w⟩ <;> simp [record, tally, removes, hw]
  | removed b => cases hr : removes key ⟨op, .removed b⟩ <;> simp [record, tally, writes, hr]
  | _ => rfl

theorem length_foldl_record (key : String) (sets : List WorkloadSet) (calls : List StoreCall) :
    (calls.foldl (record key) sets).length = calls.foldl (tally key) sets.length := by
  induction calls generalizing sets with
  | nil => rfl
  | cons c calls ih => rw [List.foldl_cons, List.foldl_cons, ih, length_record]

/-- A history is no longer than all writes to the key. -/
theorem length_written_le (key : String) (calls : List StoreCall) :
    (written key calls).length ≤ calls.countP (writes key) := by
  rw [written, length_foldl_record]
  have hle := foldl_tally_le key 0 calls
  rwa [Nat.zero_add] at hle

end StoreCall

/-- The number of sets in a history, the latest first, that differ from the one before them in the
specification. -/
def specChanges : List WorkloadSet → Nat
  | w :: previous :: rest =>
    (if previous.spec = w.spec then 0 else 1) + specChanges (previous :: rest)
  | _ => 0

/-- A specification does not change more often than sets follow the first. -/
theorem specChanges_le (sets : List WorkloadSet) : specChanges sets ≤ sets.length - 1 := by
  fun_induction specChanges sets with
  | case1 w previous rest ih =>
    simp only [List.length_cons, Nat.add_sub_cancel] at ih ⊢
    split <;> omega
  | case2 => exact Nat.zero_le _

/-! ## What the writes have in common -/

namespace Catalog

/-- A set that may be written over what is under a key. Its numbers are the next ones. Its
specification is admissible and it belongs under the key, unless it has these from what is there. -/
structure Succeeds (key : String) (previous : Option WorkloadSet) (w : WorkloadSet) : Prop where
  numbers : (w.resourceVersion, w.generation) = Store.nextNumbers previous w.spec
  valid : w.spec.fault? = none ∨ ∃ current ∈ previous, w.spec = current.spec
  filed : w.id.key = key ∨ ∃ current ∈ previous, w.id = current.id

/-- What an operation did under a key: nothing, or it wrote a set that may follow what was there, or
it removed what was there. -/
inductive Acted (m m' : Catalog) (key : String) : StoreCall → Prop where
  | kept {c : StoreCall} (free : c.hits key = false) (same : m' key = m key) : Acted m m' key c
  | wrote {op : StoreOperation} {w : WorkloadSet} (target : op.target? = some key)
      (next : Succeeds key (m key) w) (present : m' key = some w) : Acted m m' key ⟨op, .stored w⟩
  | removed {op : StoreOperation} (target : op.target? = some key) (absent : m' key = none) :
      Acted m m' key ⟨op, .removed true⟩

variable {m m' : Catalog} {op : StoreOperation} {a : StoreAnswer} {ops : List StoreOperation}
  {answers : List StoreAnswer} {key : String} {w : WorkloadSet} {sets : List WorkloadSet}

@[simp]
theorem set_self (m : Catalog) (key : String) (o : Option WorkloadSet) : m.set key o key = o := by
  simp [set]

theorem set_of_ne (m : Catalog) {key key' : String} (h : key' ≠ key) (o : Option WorkloadSet) :
    m.set key' o key = m key := by
  simp [set, h]

/-- A write acts under its target and nowhere else. -/
theorem acted_set {target : String} (htarget : op.target? = some target)
    (h : Succeeds target (m target) w) :
    Acted m (m.set target (some w)) key ⟨op, .stored w⟩ := by
  by_cases hkey : target = key
  · subst hkey
    exact .wrote htarget h (m.set_self _ _)
  · refine .kept ?_ (m.set_of_ne hkey _)
    simp [StoreCall.hits, StoreCall.writes, StoreCall.removes, htarget, hkey]

/-- **One operation.** What the rules of a map do under a key. -/
theorem Step.acted (h : m.Step op a m') (key : String) : Acted m m' key ⟨op, a⟩ := by
  cases h with
  | putInvalid _ | updateInvalid _ | updateMissing _ _ | updateStale _ _ _ | statusMissing _
  | find | list _ | reopen => exact .kept rfl rfl
  | putNew valid absent result =>
    subst result
    exact acted_set rfl ⟨by rw [absent]; rfl, .inl valid, .inl rfl⟩
  | putOver valid present result =>
    subst result
    exact acted_set rfl ⟨by rw [present]; rfl, .inl valid, .inl rfl⟩
  | update valid present fresh result =>
    subst result
    exact acted_set rfl ⟨by rw [present]; rfl, .inl valid, .inr ⟨_, present, rfl⟩⟩
  | status present result =>
    subst result
    exact acted_set rfl ⟨by rw [present]; simp [Store.nextNumbers],
      .inr ⟨_, present, rfl⟩, .inr ⟨_, present, rfl⟩⟩
  | @delete id =>
    by_cases hkey : id.key = key
    · subst hkey
      cases hentry : m id.key with
      | some current => exact .removed rfl (m.set_self _ _)
      | none => exact .kept rfl (by rw [m.set_self, hentry])
    · refine .kept ?_ (m.set_of_ne hkey _)
      cases (m id.key).isSome <;>
        simp [StoreCall.hits, StoreCall.writes, StoreCall.removes, StoreOperation.target?, hkey]

/-! ## The law -/

/-- The latest set of a history of a key has numbers that tell the history. -/
structure Booked (key : String) (sets : List WorkloadSet) (w : WorkloadSet) : Prop where
  valid : w.spec.fault? = none
  filed : w.id.key = key
  version : w.resourceVersion = .ofNat sets.length
  generation : w.generation = .ofNat (1 + specChanges sets)

/-- What is under a key is the latest set of its history, if there is one, and its numbers tell the
history. -/
structure Kept (m : Catalog) (key : String) (sets : List WorkloadSet) : Prop where
  latest : m key = sets.head?
  booked : ∀ w ∈ sets.head?, Booked key sets w

theorem kept_empty (key : String) : Kept .empty key [] :=
  ⟨rfl, by simp⟩

/-- The first set of a history starts both numbers; a later one goes on from the latest. -/
theorem Succeeds.booked (h : Succeeds key sets.head? w)
    (hsets : ∀ latest ∈ sets.head?, Booked key sets latest) : Booked key (w :: sets) w := by
  cases sets with
  | nil =>
    obtain ⟨hversion, hgeneration⟩ := Prod.mk.inj h.numbers
    refine ⟨?_, ?_, hversion, hgeneration⟩
    · simpa using h.valid
    · simpa using h.filed
  | cons latest sets =>
    have hlatest := hsets latest rfl
    have hversion : w.resourceVersion = latest.resourceVersion + 1 :=
      congrArg Prod.fst h.numbers
    have hgeneration : w.generation =
        if latest.spec = w.spec then latest.generation else latest.generation + 1 :=
      congrArg Prod.snd h.numbers
    refine ⟨?_, ?_, ?_, ?_⟩
    · rcases h.valid with hvalid | ⟨_, ⟨⟩, hspec⟩
      · exact hvalid
      · exact hspec ▸ hlatest.valid
    · rcases h.filed with hfiled | ⟨_, ⟨⟩, hid⟩
      · exact hfiled
      · exact hid ▸ hlatest.filed
    · show w.resourceVersion = .ofNat ((latest :: sets).length + 1)
      rw [hversion, hlatest.version, UInt64.ofNat_add]
      rfl
    · rw [hgeneration, hlatest.generation, specChanges]
      split
      · rw [Nat.zero_add]
      · rw [Nat.add_left_comm, Nat.add_comm 1 (1 + _), UInt64.ofNat_add (1 + specChanges _)]
        rfl

theorem Kept.acted {c : StoreCall} (h : m.Kept key sets) (ha : Acted m m' key c) :
    m'.Kept key (StoreCall.record key sets c) := by
  cases ha with
  | kept free same =>
    rw [StoreCall.record_of_not_hits free]
    exact ⟨same.trans h.latest, h.booked⟩
  | wrote target next present =>
    rw [StoreCall.record_of_stored target]
    refine ⟨present, ?_⟩
    rintro _ ⟨⟩
    exact (h.latest ▸ next).booked h.booked
  | removed target absent =>
    rw [StoreCall.record_of_removed target]
    exact ⟨absent, by simp⟩

/-- **A run keeps the books.** -/
theorem Run.kept (h : Run m ops answers m') (hm : m.Kept key sets) :
    m'.Kept key ((List.zipWith StoreCall.mk ops answers).foldl (StoreCall.record key) sets) := by
  induction h generalizing sets with
  | nil => exact hm
  | cons head _ ih => exact ih (hm.acted (head.acted key))

end Catalog

namespace Store

/-- The calls that operations in a row make of a new store. -/
def callsOf (b : Backend) (ops : List StoreOperation) : List StoreCall :=
  List.zipWith StoreCall.mk ops (Store.empty.performAll b ops).1

end Store

/-! ## The numbers that callers give -/

/-- The operations differ at most in the numbers that a set to be put carries. -/
inductive StoreOperation.Renumbered : StoreOperation → StoreOperation → Prop where
  | same {op : StoreOperation} : Renumbered op op
  | put {w : WorkloadSet} (version generation : UInt64) :
      Renumbered (.put w)
        (.put { w with resourceVersion := version, generation := generation })

namespace Store

open StoreOperation (Renumbered)

variable {b : Backend} {s : Store} {op op' : StoreOperation} {ops ops' : List StoreOperation}
  {key : String}

theorem put_renumbered (w : WorkloadSet) (version generation : UInt64) :
    s.put { w with resourceVersion := version, generation := generation } = s.put w :=
  rfl

theorem perform_renumbered (h : Renumbered op op') : s.perform b op' = s.perform b op := by
  cases h with
  | same => rfl
  | put version generation => exact congrArg s.answerWrite (put_renumbered _ _ _)

/-- The numbers that callers of put give influence nothing. -/
theorem performAll_renumbered (h : List.Forall₂ Renumbered ops ops') (s : Store) :
    s.performAll b ops' = s.performAll b ops := by
  induction h generalizing s with
  | nil => rfl
  | cons head _ ih => simp only [performAll, perform_renumbered head, ih]

/-- **Bookkeeping.** After any operations of a session with a new store, every entry is the latest
set that was written under its key. Its specification is admissible and it is filed under its own
key. Its version is the number of writes since the key was last without an entry, its generation is
one more than the number of those, after the first, that changed the specification, and so the
generation is not zero and not above the version. None of this, nor any answer, depends on the
numbers in the sets that callers put. The writes to a key must not be more than a version can
count. -/
theorem entry_bookkeeping (hops : ∀ op ∈ ops, op.OfSession b)
    (hbound : (callsOf b ops).countP (StoreCall.writes key) < UInt64.size) :
    (Store.empty.performAll b ops).2.entry key =
      .ok (StoreCall.written key (callsOf b ops)).head? ∧
    (∀ w, (Store.empty.performAll b ops).2.entry key = .ok (some w) →
      w.spec.fault? = none ∧ w.id.key = key ∧
      1 ≤ w.generation ∧ w.generation ≤ w.resourceVersion ∧
      w.resourceVersion.toNat = (StoreCall.written key (callsOf b ops)).length ∧
      w.generation.toNat = 1 + specChanges (StoreCall.written key (callsOf b ops))) ∧
    ∀ ops', List.Forall₂ Renumbered ops ops' →
      Store.empty.performAll b ops' = Store.empty.performAll b ops := by
  obtain ⟨m, hrun, hrepresents⟩ := represents_empty.run hops
  have hkept : m.Kept key (StoreCall.written key (callsOf b ops)) :=
    hrun.kept (Catalog.kept_empty key)
  have hentry := hrepresents key
  rw [hkept.latest] at hentry
  refine ⟨hentry, ?_, fun _ h => performAll_renumbered h _⟩
  intro w hw
  have hlatest : (StoreCall.written key (callsOf b ops)).head? = some w :=
    Except.ok.inj (hentry.symm.trans hw)
  have hbooked := hkept.booked w hlatest
  have hlength := StoreCall.length_written_le key (callsOf b ops)
  have hchanges := specChanges_le (StoreCall.written key (callsOf b ops))
  have hpos : 0 < (StoreCall.written key (callsOf b ops)).length :=
    List.length_pos_iff.2 (by rintro h; simp [h] at hlatest)
  have hversion : w.resourceVersion.toNat = (StoreCall.written key (callsOf b ops)).length := by
    rw [hbooked.version, UInt64.toNat_ofNat_of_lt' (by omega)]
  have hgeneration :
      w.generation.toNat = 1 + specChanges (StoreCall.written key (callsOf b ops)) := by
    rw [hbooked.generation, UInt64.toNat_ofNat_of_lt' (by omega)]
  refine ⟨hbooked.valid, hbooked.filed, ?_, ?_, hversion, hgeneration⟩
  · exact UInt64.le_iff_toNat_le.2 (by rw [hgeneration]; exact Nat.le_add_right 1 _)
  · exact UInt64.le_iff_toNat_le.2 (by omega)

/-- A set that was removed and created anew, with numbers of its own, counts from the start: a
status write raises its version, and an update of the template both numbers. -/
theorem entry_bookkeeping_recreated :
    let ops : List StoreOperation := [.put (single "v1"), .delete ⟨"db", "a"⟩,
      .put { single "v1" with resourceVersion := 7, generation := 9 },
      .updateStatus ⟨"db", "a"⟩ id, .update { single "v2" with resourceVersion := 2 }]
    ∃ w, (Store.empty.performAll .disk ops).2.entry "db/a" = .ok (some w) ∧
      w.resourceVersion.toNat = 3 ∧ w.generation.toNat = 2 ∧
      w.generation ≤ w.resourceVersion := by
  intro ops
  let first : WorkloadSet := { single "v1" with resourceVersion := 1, generation := 1 }
  let second : WorkloadSet := { first with resourceVersion := 2 }
  let third : WorkloadSet :=
    { second with spec := (single "v2").spec, resourceVersion := 3, generation := 2 }
  let answers : List StoreAnswer :=
    [.stored first, .removed true, .stored first, .stored second, .stored third]
  have hrun : ∃ m, Catalog.Run .empty ops answers m :=
    ⟨_, .cons (.putNew rfl rfl rfl) <| .cons .delete <| .cons (.putNew rfl rfl rfl) <|
      .cons (.status rfl rfl) <| .cons (.update rfl rfl rfl rfl) .nil⟩
  obtain ⟨m, hrun⟩ := hrun
  have hops : ∀ op ∈ ops, op.OfSession .disk := by simp [ops, StoreOperation.OfSession]
  have hcalls : callsOf .disk ops = List.zipWith StoreCall.mk ops answers := by
    rw [callsOf, (represents_empty.follows_run hops hrun).1]
  have hwritten : StoreCall.written "db/a" (callsOf .disk ops) = [third, second, first] := by
    rw [hcalls]
    rfl
  have hbound : (callsOf .disk ops).countP (StoreCall.writes "db/a") < UInt64.size := by
    rw [hcalls]
    decide
  obtain ⟨hentry, hnumbers, -⟩ := entry_bookkeeping hops hbound
  rw [hwritten] at hentry hnumbers
  obtain ⟨-, -, -, hle, hversion, hgeneration⟩ := hnumbers third hentry
  exact ⟨third, hentry, hversion, hgeneration, hle⟩

end Store

end PartitionedRollout
