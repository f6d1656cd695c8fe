/-
# PartitionedRollout.Proofs.Json.Forms -- the forms of a record

A record that reads back from one object reads back from many: the members may stand in any order,
members with unknown names may stand among them, and a member whose value is its default may be left
out. `Form` says which JSON values stand for a value, and carries one more fact along: whether
everything that has to be there is there. A record with a form for each of its members has a form of
its own, so that a change deep inside a nested record is a change of form like any other.

`Recovers` ties a reader to a form: it returns the value from every form that is complete and
refuses every form that is not. A reader of a record takes its fields one after the other, and there
is one lemma for each way to take a field.
-/

import PartitionedRollout.Proofs.Json.Records

namespace PartitionedRollout

/-! ## Maps in any order -/

namespace TextMap

variable {V : Type} {k : String} {v : V} {l l' : List (String × V)}

theorem lookup_eq_some_iff (h : (l.map Prod.fst).Nodup) : lookup k l = some v ↔ (k, v) ∈ l := by
  refine ⟨mem_of_lookup, ?_⟩
  intro hmem
  induction l with
  | nil => cases hmem
  | cons e l ih =>
    obtain ⟨hfresh, hnodup⟩ := List.nodup_cons.1 h
    rcases List.mem_cons.1 hmem with rfl | hmem
    · exact if_pos rfl
    · have hne : e.1 ≠ k := fun heq => hfresh (List.mem_map.2 ⟨(k, v), hmem, heq.symm⟩)
      exact (if_neg hne).trans (ih hnodup hmem)

/-- With different keys the order does not matter. -/
theorem lookup_perm (hperm : l.Perm l') (h : (l'.map Prod.fst).Nodup) (k : String) :
    lookup k l = lookup k l' := by
  have h' : (l.map Prod.fst).Nodup := (hperm.map Prod.fst).nodup_iff.2 h
  ext v
  rw [lookup_eq_some_iff h', lookup_eq_some_iff h, hperm.mem_iff]

theorem get?_foldl_insert (h : (l.map Prod.fst).Nodup) (m : TextMap V) (k : String) :
    (l.foldl (fun m e => m.insert e.1 e.2) m).get? k = (lookup k l).or (m.get? k) := by
  induction l generalizing m with
  | nil => rfl
  | cons e l ih =>
    obtain ⟨hfresh, hnodup⟩ := List.nodup_cons.1 h
    rw [List.foldl_cons, ih hnodup, get?_insert]
    by_cases hk : e.1 = k
    · have habsent : lookup k l = none := by
        rw [← Option.not_isSome_iff_eq_none, isSome_lookup_iff, ← hk]
        exact hfresh
      simp [lookup, hk, habsent]
    · simp [lookup, hk]

theorem nodup_keys (m : TextMap V) : (m.entries.map Prod.fst).Nodup := by
  refine List.Pairwise.map _ ?_ m.increasing
  intro a b hlt heq
  exact String.lt_irrefl _ (heq ▸ hlt)

/-- A map is the map of its entries in any order. -/
theorem ofList_perm {m : TextMap V} (h : l.Perm m.entries) : ofList l = m := by
  refine eq_of_get? ?_
  intro k
  have hnodup : (l.map Prod.fst).Nodup := (h.map Prod.fst).nodup_iff.2 m.nodup_keys
  rw [ofList, get?_foldl_insert hnodup, lookup_perm h m.nodup_keys, get?_empty, Option.or_none]
  rfl

end TextMap

namespace Json

variable {α β : Type}

/-! ## Forms -/

/-- The JSON values that stand for a value. With `false` they lack something that is needed. -/
abbrev Form : Type :=
  Bool → Json → Prop

/-- One value and no other. -/
def Form.exactly (v : Json) : Form :=
  fun complete j => complete = true ∧ j = v

/-- An object that maps texts to texts, with its members in any order. -/
def Form.texts (m : TextMap String) : Form :=
  fun complete j => complete = true ∧
    ∃ l : List (String × String), l.Perm m.entries ∧ j = .record (l.map fun e => (e.1, .text e.2))

/-- Values in the given forms, one after the other. -/
inductive Items : List Form → Bool → List Json → Prop where
  | nil : Items [] true []
  | cons {form : Form} {forms : List Form} {c c' : Bool} {v : Json} {vs : List Json}
      (head : form c v) (rest : Items forms c' vs) : Items (form :: forms) (c && c') (v :: vs)

/-- An array of values in the given forms. -/
def Form.array (forms : List Form) : Form :=
  fun complete j => ∃ items, Items forms complete items ∧ j = .array items

/-- A member of a record. -/
structure Member where
  /-- The name. -/
  name : String
  /-- The forms of its value. -/
  form : Form
  /-- When it may be left out; with `false` the record then lacks something. -/
  leftOut : Bool → Prop

/-- A member that has to be there. -/
def Member.required (name : String) (form : Form) : Member :=
  ⟨name, form, fun complete => complete = false⟩

/-- A member that need not be there while its value is the default. -/
def Member.optional (name : String) (form : Form) (isDefault : Prop) : Member :=
  ⟨name, form, fun complete => complete = true ∧ isDefault⟩

@[simp]
theorem Member.name_required (name : String) (form : Form) : (required name form).name = name :=
  rfl

@[simp]
theorem Member.name_optional (name : String) (form : Form) (isDefault : Prop) :
    (optional name form isDefault).name = name :=
  rfl

/-- The members of a record that are there, in the order of its fields. -/
inductive Written : List Member → Bool → List (String × Json) → Prop where
  | nil : Written [] true []
  | present {m : Member} {ms : List Member} {c c' : Bool} {v : Json} {l : List (String × Json)}
      (head : m.form c v) (rest : Written ms c' l) :
      Written (m :: ms) (c && c') ((m.name, v) :: l)
  | leftOut {m : Member} {ms : List Member} {c c' : Bool} {l : List (String × Json)}
      (head : m.leftOut c) (rest : Written ms c' l) : Written (m :: ms) (c && c') l

/-- An object with the given members in any order and with any members of other names. -/
def Form.record (ms : List Member) : Form :=
  fun complete j => ∃ written extras l, Written ms complete written ∧
    (∀ e ∈ extras, e.1 ∉ ms.map Member.name) ∧ l.Perm (written ++ extras) ∧ j = .record l

theorem exactly_self (v : Json) : Form.exactly v true v :=
  ⟨rfl, rfl⟩

theorem items_map {forms : α → Form} {write : α → Json} (h : ∀ a, forms a true (write a))
    (l : List α) : Items (l.map forms) true (l.map write) := by
  induction l with
  | nil => exact .nil
  | cons a l ih => exact .cons (h a) ih

theorem Written.complete {m : Member} {ms : List Member} {c : Bool} {v : Json}
    {l : List (String × Json)} (head : m.form true v) (rest : Written ms c l) :
    Written (m :: ms) c ((m.name, v) :: l) :=
  .present (c := true) head rest

theorem Written.omitted {name : String} {form : Form} {isDefault : Prop} {ms : List Member}
    {c : Bool} {l : List (String × Json)} (h : isDefault) (rest : Written ms c l) :
    Written (.optional name form isDefault :: ms) c l :=
  .leftOut (c := true) ⟨rfl, h⟩ rest

theorem Written.lacking {name : String} {form : Form} {ms : List Member} {c : Bool}
    {l : List (String × Json)} (rest : Written ms c l) :
    Written (.required name form :: ms) false l :=
  .leftOut (c := false) rfl rest

/-- The members in the order of the fields, with no others among them, are one form. -/
theorem record_of_written {ms : List Member} {c : Bool} {l : List (String × Json)}
    (h : Written ms c l) : Form.record ms c (.record l) :=
  ⟨l, [], l, h, nofun, by rw [List.append_nil], rfl⟩

/-! ## Readers of forms -/

/-- A value, unless something it needs is not there. -/
def whole (complete : Bool) (a : α) : Option α :=
  if complete then some a else none

theorem bind_whole {c c' : Bool} {a : α} {b : β} {k : α → Option β} (h : k a = whole c' b) :
    (whole c a).bind k = whole (c && c') b := by
  cases c with
  | false => rfl
  | true => exact h

/-- The reader returns the value from its complete forms and refuses the others. -/
def Recovers (read : Json → Option α) (form : Form) (a : α) : Prop :=
  ∀ complete j, form complete j → read j = whole complete a

variable {read : Json → Option α} {form : Form} {a : α} {b : β}

theorem recovers_exactly {v : Json} (h : read v = some a) : Recovers read (.exactly v) a := by
  rintro complete j ⟨rfl, rfl⟩
  exact h

theorem recovers_texts (m : TextMap String) : Recovers textMap? (.texts m) m := by
  rintro complete j ⟨rfl, l, hperm, rfl⟩
  rw [textMap?_texts, TextMap.ofList_perm hperm]
  rfl

theorem recovers_array {forms : α → Form} (h : ∀ a, Recovers read (forms a) a) (l : List α) :
    Recovers (list? read) (.array (l.map forms)) l := by
  rintro complete j ⟨items, hitems, rfl⟩
  show items.mapM read = whole complete l
  induction l generalizing complete items with
  | nil =>
    cases hitems
    rfl
  | cons a l ih =>
    cases hitems with
    | @cons _ _ c c' v vs head rest =>
      rw [List.mapM_cons, h a c v head]
      refine bind_whole ?_
      rw [ih c' vs rest]
      cases c' <;> rfl

/-- A value that may be `null`. -/
def nullable? (read : Json → Option α) : Json → Option (Option α)
  | .null => some none
  | v => (read v).map some

theorem recovers_null : Recovers (nullable? read) (.exactly .null) none :=
  recovers_exactly rfl

theorem recovers_some {v : Json} (h : read v = some a) (hnull : v ≠ .null) :
    Recovers (nullable? read) (.exactly v) (some a) := by
  refine recovers_exactly ?_
  rw [nullable?, h]
  · rfl
  · exact hnull

/-- A field that may be `null` and may be left out is one that stands for a default. -/
theorem omittable_eq_defaulted (r : Fields) (name : String) (read : Json → Option α) :
    r.omittable name read = r.defaulted name none (nullable? read) := by
  rw [Fields.omittable, Fields.defaulted]
  cases r.value? name with
  | none => rfl
  | some v => cases v <;> rfl

theorem optional_eq_defaulted {r : Fields} (h : r.positional = false) (name : String)
    (read : Json → Option α) :
    r.optional name read = r.defaulted name none (nullable? read) := by
  rw [Fields.optional, Fields.defaulted, h]
  cases r.value? name with
  | none => rfl
  | some v => cases v <;> rfl

/-! ## Fields of a form -/

/-- A reader has found, of each member, a form of its value or the reason why it may be left out. -/
inductive Found (r : Fields) : List Member → Bool → Prop where
  | nil : Found r [] true
  | present {m : Member} {ms : List Member} {c c' : Bool} {v : Json}
      (hvalue : r.value? m.name = some v) (head : m.form c v) (rest : Found r ms c') :
      Found r (m :: ms) (c && c')
  | leftOut {m : Member} {ms : List Member} {c c' : Bool} (hvalue : r.value? m.name = none)
      (head : m.leftOut c) (rest : Found r ms c') : Found r (m :: ms) (c && c')

variable {ms : List Member} {c : Bool} {written : List (String × Json)}

theorem Written.names_sublist (h : Written ms c written) :
    (written.map Prod.fst).Sublist (ms.map Member.name) := by
  induction h with
  | nil => exact .refl _
  | present _ _ ih => exact ih.cons_cons _
  | leftOut _ _ ih => exact ih.cons _

/-- What is written is found, if no two members share a name. -/
theorem Written.found (h : Written ms c written) (hnodup : (ms.map Member.name).Nodup) {r : Fields}
    (hr : ∀ m ∈ ms, r.value? m.name = TextMap.lookup m.name written) : Found r ms c := by
  induction h with
  | nil => exact .nil
  | @present m ms c c' v l head _ ih =>
    obtain ⟨hfresh, hnodup⟩ := List.nodup_cons.1 hnodup
    refine .present ((hr m List.mem_cons_self).trans (if_pos rfl)) head (ih hnodup ?_)
    intro m' hm'
    have hne : m.name ≠ m'.name := fun heq => hfresh (heq ▸ List.mem_map_of_mem hm')
    exact (hr m' (List.mem_cons_of_mem _ hm')).trans (if_neg hne)
  | @leftOut m ms c c' l head rest ih =>
    obtain ⟨hfresh, hnodup⟩ := List.nodup_cons.1 hnodup
    refine .leftOut ?_ head (ih hnodup fun m' hm' => hr m' (List.mem_cons_of_mem _ hm'))
    rw [hr m List.mem_cons_self, ← Option.not_isSome_iff_eq_none, TextMap.isSome_lookup_iff]
    exact fun hmem => hfresh (rest.names_sublist.subset hmem)

/-- A reader that knows the names of the members goes on with what it has found. -/
theorem bind_fields? {names : List String} {surplus : Bool} {j : Json} {k : Fields → Option β}
    (h : Form.record ms c j) (hnames : ms.map Member.name = names) (hnodup : names.Nodup)
    (hk : ∀ r, r.positional = false → Found r ms c → k r = whole c b) :
    (fields? names surplus j).bind k = whole c b := by
  subst hnames
  obtain ⟨written, extras, l, hwritten, hextras, hperm, rfl⟩ := h
  have hsub := hwritten.names_sublist
  -- Of all the members the reader keeps the written ones.
  have hkeep : (l.filter fun m => m.1 ∈ ms.map Member.name).Perm written := by
    have hall : written.filter (fun m => m.1 ∈ ms.map Member.name) = written :=
      List.filter_eq_self.2 fun m hm => by simpa using hsub.subset (List.mem_map_of_mem hm)
    have hnone : extras.filter (fun m => m.1 ∈ ms.map Member.name) = [] :=
      List.filter_eq_nil_iff.2 fun e he => by simpa using hextras e he
    have hfilter := hperm.filter fun m => m.1 ∈ ms.map Member.name
    rwa [List.filter_append, hall, hnone, List.append_nil] at hfilter
  have hwritten_nodup : (written.map Prod.fst).Nodup := hsub.nodup hnodup
  have hknown := known?_eq_filter (ms.map Member.name) l
    ((hkeep.map Prod.fst).nodup_iff.2 hwritten_nodup)
  rw [record, fields?, hknown]
  refine hk _ rfl (hwritten.found hnodup ?_)
  intro m _
  exact TextMap.lookup_perm hkeep hwritten_nodup m.name

namespace Found

variable {r : Fields} {name : String} {isDefault : Prop}

theorem whole_nil (h : Found r [] c) : some b = whole c b := by
  cases h
  rfl

/-- A field that has to be there. -/
theorem bind_required {k : α → Option β} (h : Found r (.required name form :: ms) c)
    (hread : Recovers read form a) (hk : ∀ c', Found r ms c' → k a = whole c' b) :
    (r.required name read).bind k = whole c b := by
  rw [Fields.required]
  cases h with
  | @present _ _ c c' v hvalue head rest =>
    obtain hvalue : r.value? name = some v := hvalue
    rw [hvalue, Option.bind_some, hread c v head]
    exact bind_whole (hk c' rest)
  | @leftOut _ _ c c' hvalue head rest =>
    obtain hvalue : r.value? name = none := hvalue
    obtain rfl : c = false := head
    rw [hvalue]
    rfl

/-- A field that stands for a default when it is not there. -/
theorem bind_defaulted {default : α} {k : α → Option β}
    (h : Found r (.optional name form (a = default) :: ms) c) (hread : Recovers read form a)
    (hk : ∀ c', Found r ms c' → k a = whole c' b) :
    (r.defaulted name default read).bind k = whole c b := by
  rw [Fields.defaulted]
  cases h with
  | @present _ _ c c' v hvalue head rest =>
    obtain hvalue : r.value? name = some v := hvalue
    rw [hvalue]
    show (read v).bind k = _
    rw [hread c v head]
    exact bind_whole (hk c' rest)
  | @leftOut _ _ c c' hvalue head rest =>
    obtain hvalue : r.value? name = none := hvalue
    obtain ⟨rfl, rfl⟩ : c = true ∧ a = default := head
    rw [hvalue]
    exact hk c' rest

end Found

end Json

end PartitionedRollout
