/-
# PartitionedRollout.Proofs.Toml.Statements -- written sections as statements

A written section is read as a header and one entry for each of its settings. What has to hold for
that is said by `Section.WellFormed`: the names need no quotes and the numbers fit. Everything that
is written ends where a line ends, so each reader is followed up to the line break and no further.

The reader of a whole text counts down from the length of the text. `ReadsAs` forgets that count: a
text reads as some statements under every limit beyond its length, and a statement in front takes
at least as much from the text as from the limit.
-/

import PartitionedRollout.Proofs.Json.RoundTrip
import PartitionedRollout.Proofs.Toml.Strings
import PartitionedRollout.Toml.Printer
import PartitionedRollout.Toml.Reader

namespace PartitionedRollout.Toml

open Text

/-! ## What is written -/

/-- A name that needs no quotes. -/
def isBare (name : String) : Bool :=
  !name.toList.isEmpty && name.toList.all isBareChar

/-- A setting that can be read again: a number has to stay below 2^63. -/
def Setting.Fits : Setting → Prop
  | .text _ => True
  | .natural n => n < UInt64.size / 2

/-- The value that a setting is read as. -/
def Setting.toValue : Setting → Value
  | .text s => .text s
  | .natural n => .integer n

/-- A section that can be read again. -/
structure Section.WellFormed (s : Section) : Prop where
  /-- The name of the section needs no quotes. -/
  bare : isBare s.name = true
  /-- The names of the settings need no quotes either. -/
  bareSettings : ∀ e ∈ s.settings, isBare e.1 = true
  /-- The numbers are not too large. -/
  fits : ∀ e ∈ s.settings, e.2.Fits
  /-- No setting is there twice. -/
  distinct : (s.settings.map Prod.fst).Nodup

/-- The statements that a section is read as. -/
def Section.statements (s : Section) : List Statement :=
  .table ⟨[], s.name⟩ :: s.settings.map fun e => .entry ⟨[], e.1⟩ e.2.toValue

/-! ## Numbers -/

theorem isBareChar_of_isDigit {c : Char} (h : Decimal.isDigit c = true) : isBareChar c = true := by
  have hdigit : c.isDigit = true := h
  simp [isBareChar, Char.isAlphanum, hdigit]

theorem isSpace_of_isBareChar {c : Char} (h : isBareChar c = true) : isSpace c = false := by
  rw [isSpace, Bool.or_eq_false_iff, beq_eq_false_iff_ne, beq_eq_false_iff_ne]
  refine ⟨?_, ?_⟩
  all_goals rintro rfl
  all_goals cases h

theorem digits_eq_cons (n : Nat) :
    ∃ c r, Decimal.digits n = c :: r ∧ Decimal.isDigit c = true := by
  cases hdigits : Decimal.digits n with
  | nil => exact absurd hdigits (Decimal.digits_ne_nil n)
  | cons c r => exact ⟨c, r, rfl, Decimal.isDigit_of_mem_digits (n := n) (by simp [hdigits])⟩

theorem digitRun?_of_forall {s : List Char} (hne : s ≠ [])
    (hs : ∀ c ∈ s, Decimal.isDigit c = true) : digitRun? Decimal.isDigit s = some s := by
  induction s with
  | nil => exact absurd rfl hne
  | cons c s ih =>
    have hc : Decimal.isDigit c = true := hs c List.mem_cons_self
    cases s with
    | nil => simp [digitRun?, hc]
    | cons d s =>
      have hd : Decimal.isDigit d = true := hs d (by simp)
      have hunder : d ≠ '_' := by
        rintro rfl
        cases hd
      have hrest := ih (by simp) fun c' h => hs c' (List.mem_cons_of_mem c h)
      rw [digitRun?]
      · simp [hc, hrest]
      all_goals simp_all

theorem splitSign_digits (n : Nat) : splitSign (Decimal.digits n) = (false, Decimal.digits n) := by
  unfold splitSign
  split
  next heq => cases Decimal.isDigit_of_mem_digits (n := n) (c := '+') (by simp [heq])
  next heq => cases Decimal.isDigit_of_mem_digits (n := n) (c := '-') (by simp [heq])
  next => rfl

theorem wholeDigits?_digits (n : Nat) :
    wholeDigits? (Decimal.digits n) = some (Decimal.digits n) := by
  unfold wholeDigits?
  split
  next heq =>
    rcases Nat.eq_zero_or_pos n with rfl | hn
    · simp [Decimal.digits, Nat.toDigits_zero] at heq
    · exact absurd heq (Json.digits_head_ne_zero hn _)
  next =>
    exact digitRun?_of_forall (Decimal.digits_ne_nil n) fun _ => Decimal.isDigit_of_mem_digits

theorem decimalInteger?_digits {n : Nat} (hn : n < UInt64.size / 2) :
    decimalInteger? (Decimal.digits n) = some (.integer n) := by
  have hvalue : Nat.ofDigitChars 10 (Decimal.digits n) 0 = n :=
    Nat.ofDigitChars_toDigits (by decide) (by decide)
  simp only [decimalInteger?, splitSign_digits, wholeDigits?_digits, Option.bind_some, hvalue,
    integerOf?, hn, if_true, Bool.false_eq_true, if_false]
  rfl

/-- A run of digits is no date. -/
theorem isDate_of_forall {s : List Char} (hs : ∀ c ∈ s, Decimal.isDigit c = true) :
    isDate s = false := by
  have hafter : afterDate? s = none := by
    unfold afterDate?
    split
    next => cases hs '-' (by simp)
    next => rfl
  rw [isDate, hafter]

/-- A run of digits is no time of day. -/
theorem isTime_of_forall {s : List Char} (hs : ∀ c ∈ s, Decimal.isDigit c = true) :
    isTime s = false := by
  have hafter : afterTime? s = none := by
    unfold afterTime?
    split
    next => cases hs ':' (by simp)
    next => rfl
  rw [isTime, hafter]
  rfl

theorem wordValue?_digits {n : Nat} (hn : n < UInt64.size / 2) :
    wordValue? (Decimal.digits n) = some (.integer n) := by
  have hdigits : ∀ c ∈ Decimal.digits n, Decimal.isDigit c = true :=
    fun _ => Decimal.isDigit_of_mem_digits
  unfold wordValue?
  -- The words with a letter in them are none of digits.
  split
  next heq => cases hdigits 't' (by simp [heq])
  next heq => cases hdigits 'f' (by simp [heq])
  next heq => cases hdigits 'x' (by simp [heq])
  next heq => cases hdigits 'o' (by simp [heq])
  next heq => cases hdigits 'b' (by simp [heq])
  next => simp [isDate_of_forall hdigits, isTime_of_forall hdigits, decimalInteger?_digits hn]

/-- A number ends where its line ends. -/
theorem word?_digits {n : Nat} (hn : n < UInt64.size / 2) (rest : List Char) :
    word? (Decimal.digits n ++ '\n' :: rest) = some (.integer n, '\n' :: rest) := by
  have hword : ∀ c ∈ Decimal.digits n, (!endsWord c) = true := by
    intro c hc
    have hdigit := Decimal.isDigit_of_mem_digits hc
    simp only [endsWord, isSpace, Bool.not_eq_true', Bool.or_eq_false_iff, beq_eq_false_iff_ne]
    refine ⟨⟨⟨⟨⟨⟨⟨?_, ?_⟩, ?_⟩, ?_⟩, ?_⟩, ?_⟩, ?_⟩, ?_⟩
    all_goals rintro rfl
    all_goals cases hdigit
  have hbreak : endsWord '\n' = true := rfl
  have hfirst : (Decimal.digits n ++ '\n' :: rest).takeWhile (fun c => !endsWord c) =
      Decimal.digits n := by
    simp [List.takeWhile_append_of_pos hword, hbreak]
  have hrest : (Decimal.digits n ++ '\n' :: rest).dropWhile (fun c => !endsWord c) =
      '\n' :: rest := by
    simp [List.dropWhile_append_of_pos hword, hbreak]
  simp [word?, hfirst, hrest, wordValue?_digits hn]

/-! ## Values -/

/-- A string starts with a quote. -/
theorem stringChars_eq_cons (s : List Char) :
    ∃ q r, stringChars s = q :: r ∧ (q = '\x22' ∨ q = '\x27') := by
  unfold stringChars
  cases Style.of s with
  | basic => exact ⟨_, _, rfl, Or.inl rfl⟩
  | literal => exact ⟨_, _, rfl, Or.inr rfl⟩
  | multiBasic => exact ⟨_, _, rfl, Or.inl rfl⟩
  | multiLiteral => exact ⟨_, _, rfl, Or.inr rfl⟩

theorem value?_stringChars (s rest : List Char) :
    value? (stringChars s ++ '\n' :: rest) = some (.text (String.ofList s), '\n' :: rest) := by
  have hstring : string? (stringChars s ++ '\n' :: rest) = some (s, '\n' :: rest) :=
    string?_stringChars s (by simp) (by simp)
  obtain ⟨q, r, hq, hquote⟩ := stringChars_eq_cons s
  rw [hq, List.cons_append] at hstring ⊢
  rcases hquote with rfl | rfl <;> rw [value?, valueWithin?, hstring] <;> rfl

/-- What starts with a digit is a word. -/
theorem valueWithin?_of_isDigit (depth : Nat) {c : Char} (hc : Decimal.isDigit c = true)
    (s : List Char) : valueWithin? depth (c :: s) = word? (c :: s) := by
  have hstart : c ≠ '\x22' ∧ c ≠ '\x27' ∧ c ≠ '[' ∧ c ≠ '\x7b' := by
    refine ⟨?_, ?_, ?_, ?_⟩
    all_goals rintro rfl
    all_goals cases hc
  cases depth <;> rw [valueWithin?] <;> simp_all

/-- The value of a setting reads back. -/
theorem value?_chars {v : Setting} (hv : v.Fits) (rest : List Char) :
    value? (v.chars ++ '\n' :: rest) = some (v.toValue, '\n' :: rest) := by
  cases v with
  | text s =>
    have htext := value?_stringChars s.toList rest
    rwa [String.ofList_toList] at htext
  | natural n =>
    show value? (Decimal.digits n ++ '\n' :: rest) = some (.integer n, '\n' :: rest)
    obtain ⟨c, s, hdigits, hc⟩ := digits_eq_cons n
    rw [hdigits, List.cons_append, value?, valueWithin?_of_isDigit _ hc, ← List.cons_append,
      ← hdigits, word?_digits hv]

/-- A setting is written without a blank in front. -/
theorem Setting.chars_eq_cons (v : Setting) : ∃ c r, v.chars = c :: r ∧ isSpace c = false := by
  cases v with
  | text s =>
    obtain ⟨q, r, hq, hquote⟩ := stringChars_eq_cons s.toList
    refine ⟨q, r, hq, ?_⟩
    rcases hquote with rfl | rfl <;> rfl
  | natural n =>
    obtain ⟨c, r, hdigits, hc⟩ := digits_eq_cons n
    exact ⟨c, r, hdigits, isSpace_of_isBareChar (isBareChar_of_isDigit hc)⟩

/-! ## Keys -/

theorem forall_of_isBare {name : String} (h : isBare name = true) :
    ∀ c ∈ name.toList, isBareChar c = true := by
  rw [isBare, Bool.and_eq_true, List.all_eq_true] at h
  exact h.2

theorem eq_cons_of_isBare {name : String} (h : isBare name = true) :
    ∃ c r, name.toList = c :: r ∧ isBareChar c = true := by
  cases hlist : name.toList with
  | nil => simp [isBare, hlist] at h
  | cons c r => exact ⟨c, r, rfl, forall_of_isBare h c (by simp [hlist])⟩

/-- A bare name is the first part of a key, up to what ends it. -/
theorem keyPart?_of_isBare {name : String} (hname : isBare name = true) {s : List Char}
    (hend : ∀ c ∈ s.head?, isBareChar c = false) :
    keyPart? (name.toList ++ s) = some (name, s) := by
  have hbare : (name.toList ++ s).takeWhile isBareChar = name.toList := by
    rw [List.takeWhile_append_of_pos (forall_of_isBare hname)]
    cases s with
    | nil => simp
    | cons c s => simp [hend c rfl]
  have hrest : (name.toList ++ s).dropWhile isBareChar = s := by
    rw [List.dropWhile_append_of_pos (forall_of_isBare hname)]
    cases s with
    | nil => rfl
    | cons c s => simp [hend c rfl]
  obtain ⟨c, r, hlist, hc⟩ := eq_cons_of_isBare hname
  have hempty : name.toList.isEmpty = false := by rw [hlist]; rfl
  rw [keyPart?]
  · simp only [hbare, hrest, hempty, Bool.false_eq_true, if_false, String.ofList_toList]
  all_goals rw [hlist]
  all_goals rintro _ ⟨⟩
  all_goals cases hc

/-- A bare name is a key of one part if no point follows. -/
theorem key?_of_isBare {name : String} (hname : isBare name = true) {s : List Char}
    (hend : ∀ c ∈ s.head?, isBareChar c = false) (hpoint : (skipSpaces s).head? ≠ some '.') :
    key? (name.toList ++ s) = some (⟨[], name⟩, skipSpaces s) := by
  have hskip : skipSpaces (name.toList ++ s) = name.toList ++ s := by
    obtain ⟨c, r, hlist, hc⟩ := eq_cons_of_isBare hname
    simp [skipSpaces, hlist, isSpace_of_isBareChar hc]
  have hone : ∀ limit, keyParts? (limit + 1) (name.toList ++ s) =
      some (⟨[], name⟩, skipSpaces s) := by
    intro limit
    simp only [keyParts?, hskip, keyPart?_of_isBare hname hend, Option.bind_eq_bind,
      Option.bind_some]
    split
    next heq => simp [heq] at hpoint
    next => rfl
  exact hone 78

/-! ## Statements -/

/-- The line of a setting is an entry. -/
theorem statement?_settingChars {name : String} (hname : isBare name = true) {v : Setting}
    (hv : v.Fits) (rest : List Char) :
    statement? (settingChars name v ++ rest) = some (.entry ⟨[], name⟩ v.toValue, rest) := by
  have hline : settingChars name v ++ rest =
      name.toList ++ ' ' :: '=' :: ' ' :: (v.chars ++ '\n' :: rest) := by
    simp [settingChars]
  have hkey : key? (settingChars name v ++ rest) =
      some (⟨[], name⟩, '=' :: ' ' :: (v.chars ++ '\n' :: rest)) := by
    rw [hline, key?_of_isBare hname]
    · rfl
    · rintro c ⟨⟩
      rfl
    · simp [skipSpaces, isSpace]
  have hskip : skipSpaces (' ' :: (v.chars ++ '\n' :: rest)) = v.chars ++ '\n' :: rest := by
    obtain ⟨c, r, hc, hspace⟩ := v.chars_eq_cons
    rw [hc]
    show skipSpaces (c :: (r ++ '\n' :: rest)) = c :: (r ++ '\n' :: rest)
    simp [skipSpaces, hspace]
  have hentry : assignment? value? (settingChars name v ++ rest) =
      some ((⟨[], name⟩, v.toValue), '\n' :: rest) := by
    simp [assignment?, hkey, hskip, value?_chars hv]
  obtain ⟨c, r, hlist, hc⟩ := eq_cons_of_isBare hname
  have hheader : ∀ r', settingChars name v ++ rest ≠ '[' :: r' := by
    rw [hline, hlist]
    intro r' heq
    obtain rfl := (List.cons.inj heq).1
    cases hc
  rw [statement?, hentry]
  · rfl
  · exact fun r' => hheader ('[' :: r')
  · exact hheader

/-- The header of a section opens its table. -/
theorem statement?_header {name : String} (hname : isBare name = true) (rest : List Char) :
    statement? ('[' :: (name.toList ++ ']' :: '\n' :: rest)) = some (.table ⟨[], name⟩, rest) := by
  have hkey : key? (name.toList ++ ']' :: '\n' :: rest) =
      some (⟨[], name⟩, ']' :: '\n' :: rest) := by
    rw [key?_of_isBare hname]
    · rfl
    · rintro c ⟨⟩
      rfl
    · simp [skipSpaces, isSpace]
  obtain ⟨c, r, hlist, hc⟩ := eq_cons_of_isBare hname
  rw [statement?, hkey]
  · rfl
  · rw [hlist]
    rintro _ ⟨⟩
    cases hc

/-! ## Texts -/

/-- The text reads as the statements, under every limit beyond its length. -/
def ReadsAs (s : List Char) (l : List Statement) : Prop :=
  ∀ limit, s.length < limit → statementsWithin? limit s = some l

theorem ReadsAs.nil : ReadsAs [] [] := by
  intro limit hlimit
  cases limit with
  | zero => cases hlimit
  | succ limit => rfl

/-- An empty line in front changes nothing. -/
theorem ReadsAs.blank {s : List Char} {l : List Statement} (h : ReadsAs s l) :
    ReadsAs ('\n' :: s) l := by
  intro limit hlimit
  cases limit with
  | zero => cases hlimit
  | succ limit =>
    have hsame : statementsWithin? (limit + 1) ('\n' :: s) = statementsWithin? (limit + 1) s := by
      rw [statementsWithin?, statementsWithin?, skipLines]
    rw [hsame]
    exact h (limit + 1) (by simp only [List.length_cons] at hlimit; omega)

/-- A statement in front is read first. -/
theorem ReadsAs.cons {s rest : List Char} {st : Statement} {l : List Statement}
    (hstart : ∃ c r, s = c :: r ∧ skipLines false s = s) (hst : statement? s = some (st, rest))
    (hless : rest.length < s.length) (h : ReadsAs rest l) : ReadsAs s (st :: l) := by
  intro limit hlimit
  cases limit with
  | zero => cases hlimit
  | succ limit =>
    have hrest : statementsWithin? limit rest = some l := h limit (by omega)
    obtain ⟨c, r, rfl, hskip⟩ := hstart
    rw [statementsWithin?, hskip]
    simp [hst, hrest]

theorem skipLines_of_isBareChar {c : Char} (hc : isBareChar c = true ∨ c = '[') (s : List Char) :
    skipLines false (c :: s) = c :: s := by
  have hspace : isSpace c = false := by
    rcases hc with hc | rfl
    · exact isSpace_of_isBareChar hc
    · rfl
  have hother : c ≠ '\n' ∧ c ≠ '\r' ∧ c ≠ '#' := by
    refine ⟨?_, ?_, ?_⟩
    all_goals rintro rfl
    all_goals simp [isBareChar] at hc
  rw [skipLines]
  · simp [hspace, hother]
  all_goals simp_all

/-- The lines of settings read as their entries. -/
theorem readsAs_settings {settings : List (String × Setting)}
    (hbare : ∀ e ∈ settings, isBare e.1 = true) (hfits : ∀ e ∈ settings, e.2.Fits)
    {rest : List Char} {l : List Statement} (h : ReadsAs rest l) :
    ReadsAs ((settings.flatMap fun e => settingChars e.1 e.2) ++ rest)
      ((settings.map fun e => .entry ⟨[], e.1⟩ e.2.toValue) ++ l) := by
  induction settings with
  | nil => exact h
  | cons e settings ih =>
    have hname : isBare e.1 = true := hbare e List.mem_cons_self
    have hbehind := ih (fun e' h => hbare e' (List.mem_cons_of_mem e h))
      fun e' h => hfits e' (List.mem_cons_of_mem e h)
    rw [List.flatMap_cons, List.append_assoc, List.map_cons, List.cons_append]
    refine .cons ?_ (statement?_settingChars hname (hfits e List.mem_cons_self) _) ?_ hbehind
    · obtain ⟨c, r, hlist, hc⟩ := eq_cons_of_isBare hname
      refine ⟨c, _, by rw [settingChars, hlist]; rfl, ?_⟩
      rw [settingChars, hlist]
      exact skipLines_of_isBareChar (Or.inl hc) _
    · simp only [settingChars, List.length_append, List.length_cons]
      omega

/-- A written section reads as its statements. -/
theorem Section.WellFormed.readsAs {s : Section} (hs : s.WellFormed) {rest : List Char}
    {l : List Statement} (h : ReadsAs rest l) : ReadsAs (s.chars ++ rest) (s.statements ++ l) := by
  have htext : s.chars ++ rest = '[' :: (s.name.toList ++ ']' :: '\n' ::
      ((s.settings.flatMap fun e => settingChars e.1 e.2) ++ rest)) := by
    simp [Section.chars]
  rw [htext, Section.statements, List.cons_append]
  refine .cons ⟨'[', _, rfl, skipLines_of_isBareChar (Or.inr rfl) _⟩ (statement?_header hs.bare _)
    ?_ (readsAs_settings hs.bareSettings hs.fits h)
  simp only [List.length_append, List.length_cons]
  omega

theorem readsAs_sections {l : List Section} (hl : ∀ s ∈ l, s.WellFormed) :
    ReadsAs (sectionsChars l) (l.flatMap Section.statements) := by
  induction l with
  | nil => exact .nil
  | cons s l ih =>
    have hs : s.WellFormed := hl s List.mem_cons_self
    have hrest := ih fun s' h => hl s' (List.mem_cons_of_mem s h)
    rw [List.flatMap_cons]
    cases l with
    | nil => simpa [sectionsChars] using hs.readsAs .nil
    | cons s' l => exact hs.readsAs hrest.blank

/-- **Statements.** Written sections are read as their headers and entries, one after the other. -/
theorem statements?_sectionsChars {l : List Section} (hl : ∀ s ∈ l, s.WellFormed) :
    statements? (sectionsChars l) = some (l.flatMap Section.statements) := by
  have hmark : skipMark (sectionsChars l) = sectionsChars l := by
    match l with
    | [] => rfl
    | [s] => rfl
    | s :: s' :: l => rfl
  rw [statements?, hmark]
  exact readsAs_sections hl _ (Nat.lt_succ_self _)

end PartitionedRollout.Toml
