/-
# PartitionedRollout.Proofs.Config.RoundTrip -- written configurations read back

A configuration is written with those of its sections and settings that are there, and reading takes
what is not there for absent. So a reader meets a part of the names that it knows, in their order,
and finds under each name what was to be written under it. That is said once for lists of names
with optional values; a section is such a list of settings and a configuration such a list of
sections.
-/

import PartitionedRollout.Config.Written
import PartitionedRollout.Proofs.Toml.Sections
import PartitionedRollout.Proofs.Workload.RoundTrip

namespace PartitionedRollout

open Toml

/-! ## Names with optional values -/

/-- Of the names with optional values, those with a value stay in their order. -/
theorem map_fst_present_sublist {V : Type} (l : List (String × Option V)) :
    ((l.filterMap fun e => e.2.map fun v => (e.1, v)).map Prod.fst).Sublist (l.map Prod.fst) := by
  induction l with
  | nil => exact .slnil
  | cons e l ih =>
    obtain ⟨name, _ | v⟩ := e
    · exact ih.cons name
    · exact ih.cons_cons name

namespace Json

variable {α : Type} {l : List (String × Option Json)} {name : String}

/-- The members that are there, in order. -/
def presentMembers (l : List (String × Option Json)) : List (String × Json) :=
  l.filterMap fun e => e.2.map fun v => (e.1, v)

theorem presentMembers_cons (name : String) (o : Option Json) (l : List (String × Option Json)) :
    presentMembers ((name, o) :: l) = (o.map fun v => (name, v)).toList ++ presentMembers l := by
  cases o <;> rfl

/-- A reader that knows all names finds the members that are there. -/
theorem fields?_presentMembers {names : List String} (hnames : l.map Prod.fst = names)
    (hnodup : names.Nodup) (surplus : Bool) :
    fields? names surplus (.record (presentMembers l)) = some ⟨false, presentMembers l⟩ := by
  subst hnames
  have hsub : ((presentMembers l).map Prod.fst).Sublist (l.map Prod.fst) :=
    map_fst_present_sublist l
  rw [record, fields?, known?_of_nodup _ (hsub.nodup hnodup)]
  · rfl
  · intro m hm
    exact hsub.subset (List.mem_map_of_mem hm)

/-- Under the first name stands its value. -/
theorem value?_presentMembers_self (h : name ∉ l.map Prod.fst) (b : Bool) (o : Option Json) :
    (⟨b, presentMembers ((name, o) :: l)⟩ : Fields).value? name = o := by
  rw [presentMembers_cons]
  cases o with
  | none =>
    have habsent : ¬ (TextMap.lookup name (presentMembers l)).isSome := by
      intro hsome
      exact h ((map_fst_present_sublist l).subset (TextMap.isSome_lookup_iff.1 hsome))
    simpa [Fields.value?] using habsent
  | some v => exact value?_cons_self b name v _

/-- Under another name stands what comes behind. -/
theorem value?_presentMembers_of_ne {m : String} (h : m ≠ name) (b : Bool) (o : Option Json)
    (l : List (String × Option Json)) :
    (⟨b, presentMembers ((m, o) :: l)⟩ : Fields).value? name =
      (⟨b, presentMembers l⟩ : Fields).value? name := by
  rw [presentMembers_cons]
  cases o with
  | none => rfl
  | some v => exact value?_cons_of_ne h

/-- The first member reads back if its value does, and is absent if it has none. -/
theorem optional_presentMembers_self {write : α → Json} {read : Json → Option α}
    (h : name ∉ l.map Prod.fst) (hread : ∀ a, read (write a) = some a)
    (hnull : ∀ a, write a ≠ .null) (o : Option α) :
    (⟨false, presentMembers ((name, o.map write) :: l)⟩ : Fields).optional name read = some o := by
  rw [Fields.optional, value?_presentMembers_self h]
  cases o with
  | none => rfl
  | some a =>
    rw [Option.map_some]
    split
    next heq => cases heq
    next heq => exact absurd (Option.some.inj heq) (hnull a)
    next heq => rw [← Option.some.inj heq, hread, Option.map_some]

@[simp]
theorem optional_presentMembers_of_ne {m : String} (h : m ≠ name) (o : Option Json)
    (l : List (String × Option Json)) (read : Json → Option α) :
    (⟨false, presentMembers ((m, o) :: l)⟩ : Fields).optional name read =
      (⟨false, presentMembers l⟩ : Fields).optional name read := by
  rw [Fields.optional, Fields.optional, value?_presentMembers_of_ne h]

/-- A setting with a text reads back. -/
@[simp]
theorem optional_text (h : name ∉ l.map Prod.fst) (o : Option String) :
    (⟨false, presentMembers ((name, o.map (Setting.toJson ∘ .text)) :: l)⟩ : Fields).optional name
      Json.string? = some o :=
  optional_presentMembers_self h string?_text (fun _ heq => by cases heq) o

/-- A setting with a number reads back. -/
@[simp]
theorem optional_number (h : name ∉ l.map Prod.fst) (o : Option UInt32) :
    (⟨false, presentMembers ((name, o.map (Setting.toJson ∘ numberSetting)) :: l)⟩ :
      Fields).optional name uint32? = some o :=
  optional_presentMembers_self h uint32?_natural (fun _ heq => by cases heq) o

end Json

/-! ## Settings that are there -/

/-- A section of settings with bare and different names can be read again. -/
theorem wellFormed_presentSettings {name : String} {settings : List (String × Option Setting)}
    (names : List String) (hsettings : settings.map Prod.fst = names)
    (hbare : (name :: names).all isBare = true) (hnodup : names.Nodup)
    (hfits : ∀ e ∈ settings, ∀ v ∈ e.2, v.Fits) :
    (⟨name, presentSettings settings⟩ : Section).WellFormed := by
  subst hsettings
  have hsub := map_fst_present_sublist settings
  rw [List.all_cons, Bool.and_eq_true, List.all_eq_true] at hbare
  refine ⟨hbare.1, ?_, ?_, hsub.nodup hnodup⟩
  · intro e he
    exact hbare.2 e.1 (hsub.subset (List.mem_map_of_mem he))
  · intro e he
    obtain ⟨named, hmem, hvalue⟩ := List.mem_filterMap.1 he
    obtain ⟨v, hv, rfl⟩ := Option.map_eq_some_iff.1 hvalue
    exact hfits named hmem v hv

theorem fits_text (o : Option String) : ∀ v ∈ o.map Setting.text, v.Fits := by
  intro v hv
  obtain ⟨s, -, rfl⟩ := Option.map_eq_some_iff.1 hv
  trivial

theorem fits_number (o : Option UInt32) : ∀ v ∈ o.map numberSetting, v.Fits := by
  intro v hv
  obtain ⟨n, -, rfl⟩ := Option.map_eq_some_iff.1 hv
  exact Nat.lt_trans n.toNat_lt (by decide)

theorem toJson_presentSettings (name : String) (settings : List (String × Option Setting)) :
    (⟨name, presentSettings settings⟩ : Section).toJson =
      .record (Json.presentMembers (settings.map fun e => (e.1, e.2.map Setting.toJson))) := by
  rw [Section.toJson, presentSettings, Json.presentMembers, List.map_filterMap, List.filterMap_map]
  simp only [Option.map_map, Function.comp_def]

/-! ## Sections -/

section Sections

variable (surplus : Bool)

open Json

theorem StoreSection.wellFormed (s : StoreSection) : s.toSection.WellFormed := by
  refine wellFormed_presentSettings ["path"] rfl (by decide) (by simp) ?_
  simp only [List.forall_mem_cons, List.not_mem_nil, false_implies, implies_true, and_true]
  exact fits_text _

theorem StoreSection.ofJson?_toSection (s : StoreSection) :
    StoreSection.ofJson? surplus s.toSection.toJson = some s := by
  rw [toSection, toJson_presentSettings, StoreSection.ofJson?, fields?_presentMembers]
  · simp
  · rfl
  · simp

theorem TimingSection.wellFormed (s : TimingSection) : s.toSection.WellFormed := by
  refine wellFormed_presentSettings ["pod_update_timeout", "pod_max_polling_interval"] rfl
    (by decide) (by simp) ?_
  simp only [List.forall_mem_cons, List.not_mem_nil, false_implies, implies_true, and_true]
  exact ⟨fits_text _, fits_text _⟩

theorem TimingSection.ofJson?_toSection (s : TimingSection) :
    TimingSection.ofJson? surplus s.toSection.toJson = some s := by
  rw [toSection, toJson_presentSettings, TimingSection.ofJson?, fields?_presentMembers]
  · simp
  · rfl
  · simp

theorem RetrySection.wellFormed (s : RetrySection) : s.toSection.WellFormed := by
  refine wellFormed_presentSettings ["max_attempts", "interval"] rfl (by decide) (by simp) ?_
  simp only [List.forall_mem_cons, List.not_mem_nil, false_implies, implies_true, and_true]
  exact ⟨fits_number _, fits_text _⟩

theorem RetrySection.ofJson?_toSection (s : RetrySection) :
    RetrySection.ofJson? surplus s.toSection.toJson = some s := by
  rw [toSection, toJson_presentSettings, RetrySection.ofJson?, fields?_presentMembers]
  · simp
  · rfl
  · simp

theorem ReadinessSection.wellFormed (s : ReadinessSection) : s.toSection.WellFormed := by
  refine wellFormed_presentSettings ["poll_interval", "timeout"] rfl (by decide) (by simp) ?_
  simp only [List.forall_mem_cons, List.not_mem_nil, false_implies, implies_true, and_true]
  exact ⟨fits_text _, fits_text _⟩

theorem ReadinessSection.ofJson?_toSection (s : ReadinessSection) :
    ReadinessSection.ofJson? surplus s.toSection.toJson = some s := by
  rw [toSection, toJson_presentSettings, ReadinessSection.ofJson?, fields?_presentMembers]
  · simp
  · rfl
  · simp

theorem HealthSection.wellFormed (s : HealthSection) : s.toSection.WellFormed := by
  refine wellFormed_presentSettings
    ["endpoint", "timeout", "interval", "healthy_threshold", "unhealthy_threshold"] rfl
    (by decide) (by simp) ?_
  simp only [List.forall_mem_cons, List.not_mem_nil, false_implies, implies_true, and_true]
  exact ⟨fits_text _, fits_text _, fits_text _, fits_number _, fits_number _⟩

theorem HealthSection.ofJson?_toSection (s : HealthSection) :
    HealthSection.ofJson? surplus s.toSection.toJson = some s := by
  rw [toSection, toJson_presentSettings, HealthSection.ofJson?, fields?_presentMembers]
  · simp
  · rfl
  · simp

end Sections

/-! ## Configurations -/

namespace Config

theorem wellFormed_of_mem_sections {c : Config} {s : Section} (hs : s ∈ c.sections) :
    s.WellFormed := by
  simp only [sections, List.mem_filterMap, List.mem_cons, List.not_mem_nil, or_false, id_eq,
    exists_eq_right] at hs
  rcases hs with hs | hs | hs | hs | hs
  all_goals obtain ⟨x, -, rfl⟩ := Option.map_eq_some_iff.1 hs.symm
  all_goals exact x.wellFormed

/-- The members of the record that a configuration is read from. -/
def members (c : Config) : List (String × Option Json) :=
  [("store", c.store.map fun s => s.toSection.toJson),
    ("timing", c.timing.map fun s => s.toSection.toJson),
    ("retry", c.retry.map fun s => s.toSection.toJson),
    ("readiness", c.readiness.map fun s => s.toSection.toJson),
    ("health", c.health.map fun s => s.toSection.toJson)]

theorem map_sections (c : Config) :
    c.sections.map (fun s => (s.name, s.toJson)) = Json.presentMembers c.members := by
  obtain ⟨_ | _, _ | _, _ | _, _ | _, _ | _⟩ := c <;> rfl

theorem nodup_names_sections (c : Config) : (c.sections.map Section.name).Nodup := by
  have hsub : ((Json.presentMembers c.members).map Prod.fst).Sublist
      ["store", "timing", "retry", "readiness", "health"] :=
    map_fst_present_sublist c.members
  rw [← map_sections, List.map_map] at hsub
  exact hsub.nodup (by simp)

theorem ofJson?_members (surplus : Bool) (c : Config) :
    Config.ofJson? surplus (.record (Json.presentMembers c.members)) = some c := by
  rw [Config.ofJson?, members, Json.fields?_presentMembers]
  · simp [Json.optional_presentMembers_self, Section.toJson_ne_null,
      StoreSection.ofJson?_toSection, TimingSection.ofJson?_toSection,
      RetrySection.ofJson?_toSection, ReadinessSection.ofJson?_toSection,
      HealthSection.ofJson?_toSection]
  · rfl
  · simp

/-- **Round trip.** What a configuration is written as reads back as the configuration, whatever its
settings hold. -/
theorem parse?_encode (c : Config) : parse? c.encode = some c := by
  have hread := read?_sectionsChars (fun _ => wellFormed_of_mem_sections) c.nodup_names_sections
  obtain ⟨v, hv, hjson⟩ := Option.map_eq_some_iff.1 hread
  rw [parse?, encode, hv, Option.bind_some, hjson, map_sections, ofJson?_members]

/-! ## Usable configurations -/

/-- The settings of two configurations are the same, the path of the store apart. -/
structure AgreeBeyondStore (c d : Config) : Prop where
  /-- A replica may take the same time to converge. -/
  podUpdateTimeout : c.podUpdateTimeout = d.podUpdateTimeout
  /-- The longest interval between two looks at a replica is the same. -/
  podMaxPollingInterval : c.podMaxPollingInterval = d.podMaxPollingInterval
  /-- The attempts for an update are the same. -/
  retryAttempts : c.retryAttempts = d.retryAttempts
  /-- The wait between them is the same. -/
  retryInterval : c.retryInterval = d.retryInterval
  /-- The readiness gate waits the same time between two looks. -/
  readinessPollInterval : c.readinessPollInterval = d.readinessPollInterval
  /-- The readiness gate has the same budget. -/
  readinessTimeout : c.readinessTimeout = d.readinessTimeout
  /-- The same path is requested of every replica. -/
  healthEndpoint : c.healthEndpoint = d.healthEndpoint
  /-- One health request has the same budget. -/
  healthTimeout : c.healthTimeout = d.healthTimeout
  /-- The health gate waits the same time between two rounds. -/
  healthInterval : c.healthInterval = d.healthInterval
  /-- The same numbers of rounds pass and fail the health gate. -/
  healthThresholds : c.healthThresholds = d.healthThresholds

/-- What is spelled out are the defaults. -/
theorem agreeBeyondStore_scaffold (path : String) : AgreeBeyondStore (scaffold path) empty where
  podUpdateTimeout := rfl
  podMaxPollingInterval := rfl
  retryAttempts := rfl
  retryInterval := rfl
  readinessPollInterval := rfl
  readinessTimeout := rfl
  healthEndpoint := rfl
  healthTimeout := rfl
  healthInterval := rfl
  healthThresholds := rfl

/-- A usable configuration is read as what was written. -/
theorem decode_encode_of_validate {c : Config} (h : c.validate = .ok ()) :
    decode c.encode = .ok c := by
  rw [decode, parse?_encode]
  simp only [h]

/-- **Usable configurations.** What a usable configuration is written as is read as the same
configuration again: what is absent stays absent, an empty section stays there, and every text
comes back as it was. This holds in particular of the configuration that spells out the defaults,
and that one has the settings of the empty configuration, the path of the store apart. -/
theorem decode_encode :
    (∀ c : Config, c.validate = .ok () → decode c.encode = .ok c) ∧
      ∀ path : String, decode (scaffold path).encode = .ok (scaffold path) ∧
        AgreeBeyondStore (scaffold path) empty := by
  refine ⟨fun c => decode_encode_of_validate, fun path => ⟨?_, agreeBeyondStore_scaffold path⟩⟩
  have husable : (scaffold path).validate = .ok () := rfl
  exact decode_encode_of_validate husable

/-- A usable configuration with texts that are hard to quote: quotes of both kinds and three in a
row, backslashes, line breaks and controls, blanks around and inside of time spans, and a section
with nothing in it. -/
def hardToQuote : Config where
  store := some ⟨some "\n'''\x22\x22\x22\\\x7f"⟩
  timing := some ⟨some "\t10\n m\r\n", none⟩
  retry := some ⟨none, none⟩
  readiness := none
  health := some ⟨some "/it's \x22fine\x22", some "\u3000 1h", none, some 1, none⟩

theorem decode_encode_hardToQuote :
    hardToQuote.validate = .ok () ∧ decode hardToQuote.encode = .ok hardToQuote :=
  ⟨rfl, decode_encode.1 hardToQuote rfl⟩

end Config

end PartitionedRollout
