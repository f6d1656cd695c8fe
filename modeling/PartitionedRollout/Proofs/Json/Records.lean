/-
# PartitionedRollout.Proofs.Json.Records -- values and members read back

A single value, a list and a map of texts read back from what is written for them. A reader of a
record finds the members whose names it knows, wherever they stand.
-/

import PartitionedRollout.Json.Record
import PartitionedRollout.Proofs.Json.RoundTrip

namespace PartitionedRollout.Json

/-! ## Single values -/

theorem plain_text (s : String) : Plain (.text s) :=
  .string (some s)

theorem plain_record {members : List (String × Json)} (h : ∀ m ∈ members, Plain m.2) :
    Plain (record members) := by
  refine .object ?_
  intro m hm
  obtain ⟨named, hnamed, rfl⟩ := List.mem_map.1 hm
  exact h named hnamed

@[simp]
theorem string?_text (s : String) : string? (.text s) = some s :=
  rfl

@[simp]
theorem bool?_bool (b : Bool) : bool? (.bool b) = some b :=
  rfl

@[simp]
theorem uint32?_natural (n : UInt32) : uint32? (.natural n.toNat) = some n := by
  simp [uint32?, n.toNat_lt]

@[simp]
theorem uint64?_natural (n : UInt64) : uint64? (.natural n.toNat) = some n := by
  simp [uint64?, n.toNat_lt]

theorem mapM_map {α β : Type} (write : α → β) {read : β → Option α}
    (h : ∀ a, read (write a) = some a) (l : List α) : (l.map write).mapM read = some l := by
  induction l with
  | nil => rfl
  | cons a l ih =>
    rw [List.map_cons, List.mapM_cons, h, ih]
    rfl

/-- A list of values reads back if each value does. -/
theorem list?_map {α : Type} {write : α → Json} {read : Json → Option α}
    (h : ∀ a, read (write a) = some a) (l : List α) : list? read (.array (l.map write)) = some l :=
  mapM_map write h l

/-- An object with texts for members reads as the map of these. -/
theorem textMap?_texts (l : List (String × String)) :
    textMap? (.record (l.map fun e => (e.1, .text e.2))) = some (TextMap.ofList l) := by
  have hmembers : (l.map fun e => (some e.1, Json.text e.2)).mapM textMember? = some l :=
    mapM_map (fun e => (some e.1, Json.text e.2)) (fun _ => rfl) l
  rw [record, List.map_map, textMap?, Function.comp_def, hmembers, Option.map_some]

/-- A map of texts reads back. -/
@[simp]
theorem textMap?_record (m : TextMap String) :
    textMap? (.record (m.entries.map fun e => (e.1, .text e.2))) = some m := by
  rw [textMap?_texts, TextMap.ofList_entries]

/-! ## Members -/

/-- The members that a reader knows are found if no two of these have one name; others may stand
between them, whatever they hold. -/
theorem known?_eq_filter (names : List String) (members : List (String × Json))
    (hnodup : ((members.filter fun m => m.1 ∈ names).map Prod.fst).Nodup) :
    known? names (members.map fun m => (some m.1, m.2)) =
      some (members.filter fun m => m.1 ∈ names) := by
  induction members with
  | nil => rfl
  | cons m members ih =>
    rw [List.map_cons, known?]
    by_cases hm : m.1 ∈ names
    · rw [List.filter_cons_of_pos (by simpa using hm)] at hnodup ⊢
      rw [List.map_cons, List.nodup_cons] at hnodup
      have hfresh : ((members.filter fun m => m.1 ∈ names).any fun f => f.1 == m.1) = false := by
        rw [List.any_eq_false]
        intro f hf heq
        exact hnodup.1 (List.mem_map.2 ⟨f, hf, by simpa using heq⟩)
      rw [ih hnodup.2]
      simp only [hm, hfresh, if_true, Bool.false_eq_true, if_false]
    · rw [List.filter_cons_of_neg (by simpa using hm)] at hnodup ⊢
      rw [ih hnodup]
      simp only [hm, if_false]

/-- Members with different names that a reader knows are all found. -/
theorem known?_of_nodup {names : List String} {members : List (String × Json)}
    (hnames : ∀ m ∈ members, m.1 ∈ names) (hnodup : (members.map Prod.fst).Nodup) :
    known? names (members.map fun m => (some m.1, m.2)) = some members := by
  have hall : members.filter (fun m => m.1 ∈ names) = members :=
    List.filter_eq_self.2 fun m hm => by simpa using hnames m hm
  have hknown := known?_eq_filter names members (by rwa [hall])
  rwa [hall] at hknown

/-- A record with one member for each name of a reader has all its fields. -/
theorem fields?_record {names : List String} {surplus : Bool} {members : List (String × Json)}
    (hnames : members.map Prod.fst = names) (hnodup : names.Nodup) :
    fields? names surplus (.record members) = some ⟨false, members⟩ := by
  subst hnames
  rw [record, fields?, known?_of_nodup (fun m hm => List.mem_map_of_mem hm) hnodup]
  rfl

@[simp]
theorem value?_cons_self (b : Bool) (n : String) (v : Json) (rest : List (String × Json)) :
    (⟨b, (n, v) :: rest⟩ : Fields).value? n = some v :=
  if_pos rfl

@[simp]
theorem value?_cons_of_ne {b : Bool} {m n : String} {v : Json} {rest : List (String × Json)}
    (h : m ≠ n) : (⟨b, (m, v) :: rest⟩ : Fields).value? n = (⟨b, rest⟩ : Fields).value? n :=
  if_neg h

end PartitionedRollout.Json
