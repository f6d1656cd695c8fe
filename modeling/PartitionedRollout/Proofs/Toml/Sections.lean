/-
# PartitionedRollout.Proofs.Toml.Sections -- written sections read back

The statements of sections with different names build one table for each section, at the end of
what is there already, and the entries of a section go into the table that was opened last. So
after each section the whole is the list of the sections so far, which is what the induction
carries.
-/

import PartitionedRollout.Proofs.Toml.Statements
import PartitionedRollout.Toml.Document

namespace PartitionedRollout.Toml

/-! ## Entries of a table -/

namespace Table

variable {name : String} {entries : List (String × Item)}

theorem lookup_eq_none (h : name ∉ entries.map Prod.fst) : entries.lookup name = none := by
  rw [List.lookup_eq_none_iff]
  intro e he
  rw [bne_iff_ne]
  rintro rfl
  exact h (List.mem_map_of_mem he)

theorem lookup_last (h : name ∉ entries.map Prod.fst) (item : Item) :
    (entries ++ [(name, item)]).lookup name = some item := by
  rw [List.lookup_append, lookup_eq_none h]
  simp

/-- What is put under a new name comes last. -/
theorem putEntry_of_not_mem (h : name ∉ entries.map Prod.fst) (item : Item) :
    putEntry name item entries = entries ++ [(name, item)] := by
  induction entries with
  | nil => rfl
  | cons e entries ih =>
    obtain ⟨k, i⟩ := e
    rw [List.map_cons, List.mem_cons, not_or] at h
    rw [putEntry, if_neg (Ne.symm h.1), ih h.2, List.cons_append]

/-- What is put under the last name takes its place. -/
theorem putEntry_last (h : name ∉ entries.map Prod.fst) (old item : Item) :
    putEntry name item (entries ++ [(name, old)]) = entries ++ [(name, item)] := by
  induction entries with
  | nil => simp [putEntry]
  | cons e entries ih =>
    obtain ⟨k, i⟩ := e
    rw [List.map_cons, List.mem_cons, not_or] at h
    rw [List.cons_append, putEntry, if_neg (Ne.symm h.1), ih h.2, List.cons_append]

end Table

/-! ## Steps -/

/-- The entries of the table of a section. -/
def settingItems (settings : List (String × Setting)) : List (String × Item) :=
  settings.map fun e => (e.1, .value e.2.toValue)

/-- The entries of the whole text of sections. -/
def sectionItems (l : List Section) : List (String × Item) :=
  l.map fun s => (s.name, .table .header (settingItems s.settings))

namespace Document

variable {before : List (String × Item)} {name : String}

/-- A header with a new name opens an empty table at the end. -/
theorem step?_header (hname : name ∉ before.map Prod.fst) (current : List String) :
    step? ⟨⟨.header, before⟩, current⟩ (.table ⟨[], name⟩) =
      some ⟨⟨.header, before ++ [(name, .table .header [])]⟩, [name]⟩ := by
  simp [step?, Table.modifyAt?, Table.open?, Table.item?, Table.put, Table.lookup_eq_none hname,
    Table.putEntry_of_not_mem hname]

/-- An entry with a new name goes to the end of the table that was opened last. -/
theorem step?_entry (hname : name ∉ before.map Prod.fst) {entries : List (String × Item)}
    {key : String} (hkey : key ∉ entries.map Prod.fst) (v : Value) :
    step? ⟨⟨.header, before ++ [(name, .table .header entries)]⟩, [name]⟩ (.entry ⟨[], key⟩ v) =
      some ⟨⟨.header, before ++ [(name, .table .header (entries ++ [(key, .value v)]))]⟩,
        [name]⟩ := by
  have hinsert : Table.insertAt? ⟨[], key⟩ v ⟨.header, entries⟩ =
      some ⟨.header, entries ++ [(key, .value v)]⟩ := by
    simp [Table.insertAt?, Table.modifyAt?, Table.insert?, Table.item?, Table.put,
      Table.lookup_eq_none hkey, Table.putEntry_of_not_mem hkey]
  simp [step?, Table.modifyAt?, Table.item?, Table.put, Table.toItem, Table.lookup_last hname,
    Table.putEntry_last hname, hinsert]

/-- Entries with different new names go there one after the other. -/
theorem foldlM_entries (hname : name ∉ before.map Prod.fst) {settings : List (String × Setting)}
    {entries : List (String × Item)}
    (hnodup : (entries.map Prod.fst ++ settings.map Prod.fst).Nodup) :
    (settings.map fun e => Statement.entry ⟨[], e.1⟩ e.2.toValue).foldlM step?
        ⟨⟨.header, before ++ [(name, .table .header entries)]⟩, [name]⟩ =
      some ⟨⟨.header, before ++ [(name, .table .header (entries ++ settingItems settings))]⟩,
        [name]⟩ := by
  induction settings generalizing entries with
  | nil => simp [settingItems]
  | cons e settings ih =>
    have hkey : e.1 ∉ entries.map Prod.fst := by
      intro hmem
      exact (List.nodup_append.1 hnodup).2.2 _ hmem _ (by simp) rfl
    have hbehind : ((entries ++ [(e.1, Item.value e.2.toValue)]).map Prod.fst ++
        settings.map Prod.fst).Nodup := by
      simpa using hnodup
    rw [List.map_cons, List.foldlM_cons, step?_entry hname hkey, Option.bind_eq_bind,
      Option.bind_some, ih hbehind]
    simp [settingItems]

/-- A section with a new name comes last. -/
theorem foldlM_section {s : Section} (hname : s.name ∉ before.map Prod.fst)
    (hnodup : (s.settings.map Prod.fst).Nodup) (current : List String) :
    s.statements.foldlM step? ⟨⟨.header, before⟩, current⟩ =
      some ⟨⟨.header, before ++ [(s.name, .table .header (settingItems s.settings))]⟩,
        [s.name]⟩ := by
  rw [Section.statements, List.foldlM_cons, step?_header hname, Option.bind_eq_bind,
    Option.bind_some, foldlM_entries hname (by simpa using hnodup), List.nil_append]

/-- Sections with different new names come one after the other. -/
theorem foldlM_sections (before : List (String × Item)) {l : List Section}
    (hl : ∀ s ∈ l, s.WellFormed) (hnames : (before.map Prod.fst ++ l.map Section.name).Nodup)
    (current : List String) :
    ∃ last, (l.flatMap Section.statements).foldlM step? ⟨⟨.header, before⟩, current⟩ =
      some ⟨⟨.header, before ++ sectionItems l⟩, last⟩ := by
  induction l generalizing before current with
  | nil => exact ⟨current, by simp [sectionItems]⟩
  | cons s l ih =>
    have hname : s.name ∉ before.map Prod.fst := by
      intro hmem
      exact (List.nodup_append.1 hnames).2.2 _ hmem _ (by simp) rfl
    obtain ⟨last, hlast⟩ :=
      ih (before ++ [(s.name, .table .header (settingItems s.settings))])
        (fun s' h => hl s' (List.mem_cons_of_mem s h)) (by simpa using hnames) [s.name]
    refine ⟨last, ?_⟩
    rw [List.flatMap_cons, List.foldlM_append,
      foldlM_section hname (hl s List.mem_cons_self).distinct, Option.bind_eq_bind,
      Option.bind_some, hlast]
    simp [sectionItems]

end Document

/-! ## Values -/

/-- A setting for a reader of records. -/
def Setting.toJson : Setting → Json
  | .text s => .text s
  | .natural n => .natural n

/-- A section for a reader of records. -/
def Section.toJson (s : Section) : Json :=
  .record (s.settings.map fun e => (e.1, e.2.toJson))

theorem Section.toJson_ne_null (s : Section) : s.toJson ≠ .null := by
  rintro ⟨⟩

theorem Setting.toJson_toValue (v : Setting) : v.toValue.toJson = v.toJson := by
  cases v with
  | text s => rfl
  | natural n => simp [toValue, Value.toJson, Setting.toJson]

theorem entriesToJson_settingItems (settings : List (String × Setting)) :
    Value.entriesToJson (entriesToValue (settingItems settings)) =
      settings.map fun e => (some e.1, e.2.toJson) := by
  induction settings with
  | nil => rfl
  | cons e settings ih =>
    show (some e.1, e.2.toValue.toJson) ::
      Value.entriesToJson (entriesToValue (settingItems settings)) = _
    rw [ih, e.2.toJson_toValue, List.map_cons]

theorem entriesToJson_sectionItems (l : List Section) :
    Value.entriesToJson (entriesToValue (sectionItems l)) =
      l.map fun s => (some s.name, s.toJson) := by
  induction l with
  | nil => rfl
  | cons s l ih =>
    show (some s.name, Json.object
        (Value.entriesToJson (entriesToValue (settingItems s.settings)))) ::
      Value.entriesToJson (entriesToValue (sectionItems l)) = _
    rw [ih, entriesToJson_settingItems, List.map_cons, Section.toJson, Json.record, List.map_map,
      Function.comp_def]

/-- **Sections.** Written sections with different names read back as one record of records. -/
theorem read?_sectionsChars {l : List Section} (hl : ∀ s ∈ l, s.WellFormed)
    (hnames : (l.map Section.name).Nodup) :
    (read? (String.ofList (sectionsChars l))).map Value.toJson =
      some (.record (l.map fun s => (s.name, s.toJson))) := by
  obtain ⟨last, hlast⟩ := Document.foldlM_sections [] hl hnames []
  have hread : read? (String.ofList (sectionsChars l)) =
      some (.table (entriesToValue (sectionItems l))) := by
    rw [read?, ofChars?, String.toList_ofList, statements?_sectionsChars hl, Option.bind_some,
      ofStatements?, Document.start, Table.empty, hlast]
    rfl
  rw [hread, Option.map_some, Value.toJson, entriesToJson_sectionItems, Json.record, List.map_map]
  rfl

end PartitionedRollout.Toml
