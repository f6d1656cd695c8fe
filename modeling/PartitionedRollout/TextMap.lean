/-
# PartitionedRollout.TextMap -- finite maps with text keys in order

A map keeps its entries in strictly increasing key order, so two maps with the same entries are
the same value and listing a map needs no sorting. The order is that of the scalar values of the
keys, which is also the order of their UTF-8 bytes. Looking up is the view through which every
operation is described: `get?_insert` and `get?_erase` say all there is to say about them.
-/

namespace PartitionedRollout

/-- Entries in strictly increasing key order. -/
structure TextMap (V : Type) where
  /-- The entries, smallest key first. -/
  entries : List (String × V)
  /-- No key occurs twice and the keys increase. -/
  increasing : entries.Pairwise fun a b => a.1 < b.1
  deriving DecidableEq, Repr

namespace TextMap

variable {V : Type}

/-- The map without entries. -/
def empty : TextMap V :=
  ⟨[], .nil⟩

instance : Inhabited (TextMap V) :=
  ⟨empty⟩

/-- The value of the first entry with the given key. -/
def lookup (key : String) : List (String × V) → Option V
  | [] => none
  | (k, v) :: rest => if k = key then some v else lookup key rest

/-- Put an entry at its place in an ordered list, replacing one with the same key. -/
def place (key : String) (value : V) : List (String × V) → List (String × V)
  | [] => [(key, value)]
  | (k, v) :: rest =>
    if key < k then (key, value) :: (k, v) :: rest
    else if key = k then (key, value) :: rest
    else (k, v) :: place key value rest

theorem mem_place {key : String} {value : V} {e : String × V} {l : List (String × V)}
    (h : e ∈ place key value l) : e = (key, value) ∨ e ∈ l := by
  induction l with
  | nil => simpa [place] using h
  | cons a r ih =>
    obtain ⟨k, v⟩ := a
    unfold place at h
    split at h
    · simpa using h
    · split at h
      · rcases List.mem_cons.1 h with h | h
        · exact Or.inl h
        · exact Or.inr (List.mem_cons_of_mem _ h)
      · rcases List.mem_cons.1 h with h | h
        · exact Or.inr (by simp [h])
        · rcases ih h with h | h
          · exact Or.inl h
          · exact Or.inr (List.mem_cons_of_mem _ h)

theorem pairwise_place {key : String} {value : V} {l : List (String × V)}
    (h : l.Pairwise fun a b => a.1 < b.1) :
    (place key value l).Pairwise fun a b => a.1 < b.1 := by
  induction l with
  | nil => simp [place]
  | cons a r ih =>
    obtain ⟨k, v⟩ := a
    obtain ⟨hk, hr⟩ := List.pairwise_cons.1 h
    unfold place
    split
    next hlt =>
      refine List.pairwise_cons.2 ⟨fun e he => ?_, h⟩
      rcases List.mem_cons.1 he with rfl | he
      · exact hlt
      · exact String.lt_trans hlt (hk e he)
    next hnlt =>
      split
      next heq =>
        subst heq
        exact List.pairwise_cons.2 ⟨hk, hr⟩
      next hne =>
        refine List.pairwise_cons.2 ⟨fun e he => ?_, ih hr⟩
        rcases mem_place he with rfl | he
        · show k < key
          rcases Std.lt_trichotomy key k with h | h | h
          · exact absurd h hnlt
          · exact absurd h hne
          · exact h
        · exact hk e he

/-- The value stored under a key, if there is one. -/
def get? (m : TextMap V) (key : String) : Option V :=
  lookup key m.entries

/-- The map with the given value under the given key, and every other entry as it was. -/
def insert (m : TextMap V) (key : String) (value : V) : TextMap V :=
  ⟨place key value m.entries, pairwise_place m.increasing⟩

/-- The map without an entry for the given key. -/
def erase (m : TextMap V) (key : String) : TextMap V :=
  ⟨m.entries.filter fun e => e.1 != key, m.increasing.filter _⟩

/-- The map of a list of entries; of two entries with one key the later one counts. -/
def ofList (l : List (String × V)) : TextMap V :=
  l.foldl (fun m e => m.insert e.1 e.2) empty

/-- The keys in order. -/
def keys (m : TextMap V) : List String :=
  m.entries.map Prod.fst

/-- The values in the order of their keys. -/
def values (m : TextMap V) : List V :=
  m.entries.map Prod.snd

/-- The left map overlaid with the right one. -/
def union (m n : TextMap V) : TextMap V :=
  n.entries.foldl (fun m e => m.insert e.1 e.2) m

/-! ## The view -/

theorem lookup_place (key : String) (value : V) (k : String) {l : List (String × V)}
    (h : l.Pairwise fun a b => a.1 < b.1) :
    lookup k (place key value l) = if key = k then some value else lookup k l := by
  induction l with
  | nil => simp [place, lookup]
  | cons a r ih =>
    obtain ⟨k', v⟩ := a
    obtain ⟨hk, hr⟩ := List.pairwise_cons.1 h
    unfold place
    split
    · simp [lookup]
    · split
      next heq => subst heq; by_cases h1 : key = k <;> simp [lookup, h1]
      next hne =>
        by_cases h2 : k' = k
        · subst h2
          simp [lookup, hne]
        · simp [lookup, h2, ih hr]

/-- An entry that was put is found, and no other look-up changes. -/
@[simp]
theorem get?_insert (m : TextMap V) (key : String) (value : V) (k : String) :
    (m.insert key value).get? k = if key = k then some value else m.get? k :=
  lookup_place key value k m.increasing

/-- An erased key is not found, and no other look-up changes. -/
@[simp]
theorem get?_erase (m : TextMap V) (key k : String) :
    (m.erase key).get? k = if key = k then none else m.get? k := by
  obtain ⟨l, hl⟩ := m
  show lookup k (l.filter fun e => e.1 != key) = if key = k then none else lookup k l
  clear hl
  induction l with
  | nil => simp [lookup]
  | cons a r ih =>
    obtain ⟨k', v⟩ := a
    by_cases h1 : k' = key
    · subst h1
      by_cases h2 : k' = k <;> simp_all [lookup]
    · have : (k' != key) = true := by simpa using h1
      simp only [List.filter_cons, this, if_true, lookup, ih]
      by_cases h2 : key = k
      · subst h2; simp [h1]
      · by_cases h3 : k' = k <;> simp [h2, h3]

@[simp]
theorem get?_empty (k : String) : (empty : TextMap V).get? k = none :=
  rfl

/-! ## Maps and lists -/

theorem lookup_of_mem {k : String} {v : V} {l : List (String × V)}
    (h : l.Pairwise fun a b => a.1 < b.1) (hm : (k, v) ∈ l) : lookup k l = some v := by
  induction l with
  | nil => cases hm
  | cons a r ih =>
    obtain ⟨k', v'⟩ := a
    obtain ⟨hk, hr⟩ := List.pairwise_cons.1 h
    rcases List.mem_cons.1 hm with heq | hm
    · obtain ⟨rfl, rfl⟩ := Prod.mk.inj heq
      simp [lookup]
    · have hne : k' ≠ k := by
        rintro rfl
        have hlt : k' < k' := hk _ hm
        exact String.lt_irrefl _ hlt
      simp [lookup, hne, ih hr hm]

/-- An entry of the list is found under its key. -/
theorem get?_of_mem_entries {m : TextMap V} {k : String} {v : V} (h : (k, v) ∈ m.entries) :
    m.get? k = some v :=
  lookup_of_mem m.increasing h

theorem mem_of_lookup {k : String} {v : V} {l : List (String × V)} (h : lookup k l = some v) :
    (k, v) ∈ l := by
  induction l with
  | nil => cases h
  | cons e l ih =>
    obtain ⟨k', v'⟩ := e
    by_cases hk : k' = k
    · obtain rfl : v' = v := by simpa [lookup, hk] using h
      rw [hk]
      exact List.mem_cons_self
    · exact List.mem_cons_of_mem _ (ih (by simpa [lookup, hk] using h))

/-- The entries are what is found under the keys. -/
theorem mem_entries_iff {m : TextMap V} {k : String} {v : V} :
    (k, v) ∈ m.entries ↔ m.get? k = some v :=
  ⟨get?_of_mem_entries, mem_of_lookup⟩

theorem isSome_lookup_iff {k : String} {l : List (String × V)} :
    (lookup k l).isSome ↔ k ∈ l.map Prod.fst := by
  induction l with
  | nil => simp [lookup]
  | cons e l ih =>
    obtain ⟨k', v⟩ := e
    by_cases h : k' = k
    · simp [lookup, h]
    · simp [lookup, h, ih, Ne.symm h]

/-- The keys are those under which something is found. -/
theorem mem_keys_iff {m : TextMap V} {k : String} : k ∈ m.keys ↔ (m.get? k).isSome :=
  isSome_lookup_iff.symm

theorem eq_of_entries {m n : TextMap V} (h : m.entries = n.entries) : m = n := by
  obtain ⟨l, hl⟩ := m
  obtain ⟨l', hl'⟩ := n
  obtain rfl : l = l' := h
  rfl

/-- Two maps are equal if the same is found in them under every key. -/
theorem eq_of_get? {m n : TextMap V} (h : ∀ k, m.get? k = n.get? k) : m = n := by
  have hirrefl : ∀ a b : String × V, a.1 < b.1 → a ≠ b := by
    rintro a _ hlt rfl
    exact String.lt_irrefl _ hlt
  have hperm : m.entries.Perm n.entries :=
    (List.perm_ext_iff_of_nodup (m.increasing.imp (hirrefl _ _))
      (n.increasing.imp (hirrefl _ _))).2 fun ⟨k, v⟩ => by
        rw [mem_entries_iff, mem_entries_iff, h]
  refine eq_of_entries (hperm.eq_of_pairwise ?_ m.increasing n.increasing)
  intro a b _ _ hlt hgt
  exact absurd (String.lt_trans hlt hgt) (String.lt_irrefl _)

/-- An entry behind all others is put at the end. -/
theorem place_of_forall_lt {key : String} {value : V} {l : List (String × V)}
    (h : ∀ e ∈ l, e.1 < key) : place key value l = l ++ [(key, value)] := by
  induction l with
  | nil => rfl
  | cons a r ih =>
    obtain ⟨k, v⟩ := a
    have hk : k < key := h (k, v) List.mem_cons_self
    have hnlt : ¬ key < k := fun hlt => String.lt_irrefl _ (String.lt_trans hlt hk)
    have hne : key ≠ k := fun heq => String.lt_irrefl _ (heq ▸ hk)
    simp [place, hnlt, hne, ih fun e he => h e (List.mem_cons_of_mem _ he)]

theorem entries_foldl_insert {l : List (String × V)} (m : TextMap V)
    (h : (m.entries ++ l).Pairwise fun a b => a.1 < b.1) :
    (l.foldl (fun m e => m.insert e.1 e.2) m).entries = m.entries ++ l := by
  induction l generalizing m with
  | nil => simp
  | cons e l ih =>
    have hlast : (m.insert e.1 e.2).entries = m.entries ++ [e] :=
      place_of_forall_lt fun a ha => (List.pairwise_append.1 h).2.2 a ha e List.mem_cons_self
    rw [List.foldl_cons, ih, hlast, List.append_assoc, List.singleton_append]
    rw [hlast, List.append_assoc, List.singleton_append]
    exact h

/-- A map is the map of its entries. -/
theorem ofList_entries (m : TextMap V) : ofList m.entries = m := by
  refine eq_of_entries ?_
  rw [ofList, entries_foldl_insert empty m.increasing]
  rfl

end TextMap

end PartitionedRollout
