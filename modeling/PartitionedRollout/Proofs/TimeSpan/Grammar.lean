/-
# PartitionedRollout.Proofs.TimeSpan.Grammar -- which texts are time spans

The grammar of written time spans stands on its own here: numerals, counts with or without a plus
sign, the four units of measure, and blanks. A reader that takes suffixes off a text, trims it twice
and multiplies reads exactly the texts of this grammar whose values fit, and it reads them as what
they say.

The units overlap: one ends in the letter of another, and begins with the letter of a third. They
stay apart because a count ends in a digit and a blank is no letter, so what stands in front of a
unit never ends in a letter.
-/

import Mathlib.Data.List.Induction
import Mathlib.Tactic.IntervalCases
import PartitionedRollout.Proofs.Text.Trim
import PartitionedRollout.TimeSpan.Reader

namespace PartitionedRollout.TimeSpan

open Text

/-! ## The grammar -/

/-- A row of decimal digits, and the number that it stands for. -/
inductive Numeral : List Char → Nat → Prop where
  /-- One digit. -/
  | digit {d : Nat} (hd : d < 10) : Numeral [d.digitChar] d
  /-- One digit more. -/
  | snoc {s : List Char} {n d : Nat} (h : Numeral s n) (hd : d < 10) :
      Numeral (s ++ [d.digitChar]) (10 * n + d)

/-- A numeral with a plus sign in front of it, or without one. -/
inductive Count : List Char → Nat → Prop where
  /-- There is no sign. -/
  | unsigned {s : List Char} {n : Nat} (h : Numeral s n) : Count s n
  /-- There is one. -/
  | signed {s : List Char} {n : Nat} (h : Numeral s n) : Count ('+' :: s) n

/-- What a count counts. -/
inductive Measure where
  | millis
  | seconds
  | minutes
  | hours
  deriving DecidableEq, Repr

namespace Measure

/-- How a measure is written. -/
def symbol : Measure → List Char
  | millis => ['m', 's']
  | seconds => ['s']
  | minutes => ['m']
  | hours => ['h']

/-- Its length in nanoseconds. -/
def nanos : Measure → Nat
  | millis => nanosPerMilli
  | seconds => nanosPerSecond
  | minutes => 60 * nanosPerSecond
  | hours => 3600 * nanosPerSecond

/-- The counts that are not too large: the count itself fits in 64 bits, and so do the seconds that
minutes and hours come to. -/
def Admits : Measure → Nat → Prop
  | millis, n => n ≤ 2 ^ 64 - 1
  | seconds, n => n ≤ 2 ^ 64 - 1
  | minutes, n => n ≤ 2 ^ 64 - 1 ∧ 60 * n ≤ 2 ^ 64 - 1
  | hours, n => n ≤ 2 ^ 64 - 1 ∧ 3600 * n ≤ 2 ^ 64 - 1

end Measure

/-- A count and how it is measured: in seconds, if nothing else is said. -/
inductive Amount : List Char → Nat → Measure → Prop where
  /-- A count stands alone. -/
  | bare {s : List Char} {n : Nat} (h : Count s n) : Amount s n .seconds
  /-- A measure stands behind it, blanks or not. -/
  | measured {s gap : List Char} {n : Nat} (h : Count s n) (hgap : Blanks gap) (m : Measure) :
      Amount (s ++ gap ++ m.symbol) n m

/-- A written time span: an amount, blanks around it or not. -/
def Written (s : List Char) (n : Nat) (m : Measure) : Prop :=
  ∃ front amount back, s = front ++ amount ++ back ∧ Blanks front ∧ Blanks back ∧ Amount amount n m

/-! ## Numerals and counts -/

section

variable {s : List Char} {c : Char} {n d : Nat}

/-- A digit is the character of its value. -/
theorem exists_digitChar (h : Decimal.isDigit c = true) :
    ∃ d < 10, c = d.digitChar ∧ c.toNat - '0'.toNat = d := by
  obtain ⟨hlow, hhigh⟩ := Char.isDigit_iff_toNat.1 h
  have hc : Char.ofNat c.toNat = c := Char.ofNat_toNat c
  have hlow : 48 ≤ c.toNat := hlow
  have hhigh : c.toNat ≤ 57 := hhigh
  refine ⟨c.toNat - '0'.toNat, ?_, ?_, rfl⟩
  · show c.toNat - 48 < 10
    omega
  · rw [← hc]
    interval_cases c.toNat <;> rfl

theorem toNat_digitChar (hd : d < 10) : d.digitChar.toNat - '0'.toNat = d := by
  interval_cases d <;> rfl

theorem isDigit_digitChar (hd : d < 10) : Decimal.isDigit d.digitChar = true := by
  rw [Decimal.isDigit, Nat.isDigit_digitChar]
  exact decide_eq_true hd

theorem Numeral.all_isDigit (h : Numeral s n) : s.all Decimal.isDigit = true := by
  induction h with
  | digit hd => simp [isDigit_digitChar hd]
  | snoc _ hd ih => simpa [isDigit_digitChar hd] using ih

theorem Numeral.ne_nil (h : Numeral s n) : s ≠ [] := by
  cases h <;> simp

theorem Numeral.value (h : Numeral s n) : Nat.ofDigitChars 10 s 0 = n := by
  induction h with
  | digit hd => exact (Nat.zero_add _).trans (toNat_digitChar hd)
  | snoc _ hd ih =>
    rw [Nat.ofDigitChars_append, ih, Nat.ofDigitChars_cons, toNat_digitChar hd]
    rfl

/-- Every row of digits is a numeral. -/
theorem numeral_of_all_isDigit (hs : s ≠ []) (hall : s.all Decimal.isDigit = true) :
    Numeral s (Nat.ofDigitChars 10 s 0) := by
  induction s using List.reverseRecOn with
  | nil => exact absurd rfl hs
  | append_singleton s c ih =>
    rw [List.all_append, Bool.and_eq_true, List.all_cons, Bool.and_eq_true] at hall
    obtain ⟨hall, hc, -⟩ := hall
    obtain ⟨d, hd, rfl, hvalue⟩ := exists_digitChar hc
    rw [Nat.ofDigitChars_append, Nat.ofDigitChars_cons, hvalue]
    by_cases hnil : s = []
    · rw [hnil]
      simpa [Nat.ofDigitChars] using Numeral.digit hd
    · exact .snoc (ih hnil hall) hd

theorem value?_eq_some_iff : Decimal.value? s = some n ↔ Numeral s n := by
  unfold Decimal.value?
  constructor
  · intro h
    split at h
    next hdigits =>
      cases h
      rw [Bool.and_eq_true] at hdigits
      exact numeral_of_all_isDigit (by simpa using hdigits.1) hdigits.2
    next => cases h
  · intro h
    have hne : (!s.isEmpty) = true := by simpa using h.ne_nil
    rw [hne, h.all_isDigit, h.value]
    rfl

theorem Numeral.head_ne_plus (h : Numeral ('+' :: s) n) : False := by
  have hall := h.all_isDigit
  rw [List.all_cons, Bool.and_eq_true] at hall
  exact absurd hall.1 (by decide)

theorem decimalCount?_eq_some_iff {bound : Nat} :
    Decimal.count? bound s = some n ↔ Count s n ∧ n < bound := by
  unfold Decimal.count?
  rw [Option.filter_eq_some_iff, decide_eq_true_iff]
  refine and_congr_left fun _ => ?_
  split
  next r =>
    rw [value?_eq_some_iff]
    constructor
    · exact .signed
    · rintro (h | h)
      · exact h.head_ne_plus.elim
      · exact h
  next hplus =>
    rw [value?_eq_some_iff]
    constructor
    · exact .unsigned
    · rintro (h | h)
      · exact h
      · exact absurd rfl (hplus _)

/-- A count ends in a digit. -/
theorem Count.last (h : Count s n) : ∃ r c, s = r ++ [c] ∧ Decimal.isDigit c = true := by
  cases h with
  | unsigned h =>
    cases h with
    | digit hd => exact ⟨[], _, rfl, isDigit_digitChar hd⟩
    | snoc _ hd => exact ⟨_, _, rfl, isDigit_digitChar hd⟩
  | signed h =>
    cases h with
    | digit hd => exact ⟨['+'], _, rfl, isDigit_digitChar hd⟩
    | snoc _ hd => exact ⟨_ :: _, _, rfl, isDigit_digitChar hd⟩

theorem isBlank_of_isDigit (h : Decimal.isDigit c = true) : isBlank c = false := by
  obtain ⟨d, hd, rfl, -⟩ := exists_digitChar h
  interval_cases d <;> rfl

theorem Numeral.beginsTrimmed (h : Numeral s n) : BeginsTrimmed s := by
  intro c hc
  exact isBlank_of_isDigit (List.all_eq_true.1 h.all_isDigit c (List.mem_of_mem_head? hc))

theorem Count.trimmed (h : Count s n) : Trimmed s := by
  constructor
  case first =>
    cases h with
    | unsigned h => exact h.beginsTrimmed
    | signed h => rintro c ⟨⟩; rfl
  case last =>
    obtain ⟨r, c, rfl, hc⟩ := h.last
    rw [List.reverse_append]
    rintro _ ⟨⟩
    exact isBlank_of_isDigit hc

end

/-! ## One measure -/

/-- What is read when a measure has been found behind some characters. -/
def Measure.read? : Measure → List Char → Option TimeSpan
  | millis, r => (count? r).bind fun n => ofNanos? (n * nanosPerMilli)
  | seconds, r => ofUnits? 1 r
  | minutes, r => ofUnits? 60 r
  | hours, r => ofUnits? 3600 r

section

variable {s r gap : List Char} {n : Nat} {m : Measure} {d : TimeSpan}

theorem count?_eq_some_iff : count? s = some n ↔ Count (trim s) n ∧ n < UInt64.size :=
  decimalCount?_eq_some_iff

theorem ofUnits?_eq_some_iff {unit : Nat} :
    ofUnits? unit s = some d ↔
      ∃ n, Count (trim s) n ∧ n < UInt64.size ∧ n * unit < UInt64.size ∧
        d.nanos = n * unit * nanosPerSecond := by
  rw [ofUnits?, Option.bind_eq_some_iff]
  refine exists_congr fun n => ?_
  rw [count?_eq_some_iff, and_assoc]
  refine and_congr_right fun _ => and_congr_right fun _ => ?_
  split
  next hunit => rw [ofNanos?_eq_some_iff, and_iff_right hunit]
  next hunit => exact iff_of_false (fun h => nomatch h) fun h => hunit h.1

/-- The count behind a measure is read if the measure admits it. -/
theorem Measure.read?_eq_some_iff :
    m.read? r = some d ↔ ∃ n, Count (trim r) n ∧ m.Admits n ∧ d.nanos = n * m.nanos := by
  cases m with
  | millis =>
    rw [Measure.read?, Option.bind_eq_some_iff]
    refine exists_congr fun n => ?_
    rw [count?_eq_some_iff, and_assoc, ofNanos?_eq_some_iff]
    refine and_congr_right fun _ => and_congr_left fun _ => ?_
    exact Nat.lt_iff_le_pred (by decide)
  | seconds | minutes | hours =>
    rw [Measure.read?, ofUnits?_eq_some_iff]
    refine exists_congr fun n => and_congr_right fun _ => ?_
    simp only [Measure.Admits, Measure.nanos, UInt64.size, nanosPerSecond]
    omega

/-- An admitted count makes a time span. -/
theorem Measure.Admits.exists_span (h : m.Admits n) : ∃ d : TimeSpan, d.nanos = n * m.nanos := by
  have hfits : n * m.nanos < UInt64.size * nanosPerSecond := by
    cases m <;>
      simp only [Measure.Admits, Measure.nanos, UInt64.size, nanosPerMilli, nanosPerSecond] at h ⊢ <;>
      omega
  exact ⟨⟨_, hfits⟩, rfl⟩

/-! ## The measure at the end -/

/-- A measure is found at the end, unless its letter is the second one of another measure. -/
theorem ofChars?_of_symbol (hs : trim s = r ++ m.symbol) (hr : 'm' ∉ r.reverse.head?) :
    ofChars? s = m.read? r := by
  have hback : (trim s).reverse = m.symbol.reverse ++ r.reverse := by
    rw [hs, List.reverse_append]
  have hr' : r = r.reverse.reverse := (List.reverse_reverse r).symm
  rw [ofChars?, hback]
  cases m with
  | millis | minutes | hours =>
    rw [hr', List.reverse_reverse r.reverse]
    rfl
  | seconds =>
    rw [hr', List.reverse_reverse r.reverse]
    generalize r.reverse = t at hr
    cases t with
    | nil => rfl
    | cons c t =>
      have hc : c ≠ 'm' := fun hc => hr (by rw [hc]; rfl)
      simp [Measure.symbol, Measure.read?, hc]

/-- Behind a digit stands no measure. -/
theorem ofChars?_of_count (h : Count (trim s) n) :
    ofChars? s = Measure.seconds.read? (trim s) := by
  obtain ⟨r, c, hs, hc⟩ := h.last
  have hback : (trim s).reverse = c :: r.reverse := by
    rw [hs, List.reverse_append]
    rfl
  have hletter : c ≠ 's' ∧ c ≠ 'm' ∧ c ≠ 'h' := by
    refine ⟨?_, ?_, ?_⟩ <;> rintro rfl <;> exact absurd hc (by decide)
  rw [ofChars?, hback]
  split
  next heq => exact absurd (List.cons.inj heq).1 hletter.1
  next heq => exact absurd (List.cons.inj heq).1 hletter.1
  next heq => exact absurd (List.cons.inj heq).1 hletter.2.1
  next heq => exact absurd (List.cons.inj heq).1 hletter.2.2
  next => rw [← hback, List.reverse_reverse]; rfl

/-- Either a measure is found at the end, or the whole is read as a count. -/
theorem ofChars?_cases (s : List Char) :
    (∃ m r, trim s = r ++ Measure.symbol m ∧ ofChars? s = m.read? r) ∨
      ofChars? s = Measure.seconds.read? (trim s) := by
  have hback : trim s = (trim s).reverse.reverse := (List.reverse_reverse _).symm
  unfold ofChars?
  split
  next r heq => exact .inl ⟨.millis, r.reverse, by rw [hback, heq]; simp [Measure.symbol], rfl⟩
  next r _ heq => exact .inl ⟨.seconds, r.reverse, by rw [hback, heq]; simp [Measure.symbol], rfl⟩
  next r heq => exact .inl ⟨.minutes, r.reverse, by rw [hback, heq]; simp [Measure.symbol], rfl⟩
  next r heq => exact .inl ⟨.hours, r.reverse, by rw [hback, heq]; simp [Measure.symbol], rfl⟩
  next => exact .inr (by rw [List.reverse_reverse]; rfl)

/-! ## The reader and the grammar -/

/-- In front of a measure stands a digit or a blank, and no letter. -/
theorem Count.no_letter (h : Count s n) (hgap : Blanks gap) : 'm' ∉ (s ++ gap).reverse.head? := by
  rw [List.reverse_append]
  intro hm
  cases hreverse : gap.reverse with
  | nil =>
    obtain ⟨r, c, rfl, hc⟩ := h.last
    rw [hreverse, List.reverse_append] at hm
    cases hm
    exact absurd hc (by decide)
  | cons c t =>
    rw [hreverse] at hm
    cases hm
    exact absurd (hgap 'm' (List.mem_reverse.1 (hreverse ▸ List.mem_cons_self))) (by decide)

theorem Amount.trimmed (h : Amount s n m) : Trimmed s := by
  cases h with
  | bare h => exact h.trimmed
  | @measured s gap _ h hgap =>
    obtain ⟨r, c, hs, -⟩ := h.last
    have hne : s ≠ [] := by simp [hs]
    constructor
    case first =>
      rw [List.append_assoc]
      exact h.trimmed.first.append hne _
    case last =>
      rw [List.reverse_append]
      cases m <;> rintro _ ⟨⟩ <;> rfl

theorem written_iff : Written s n m ↔ Amount (trim s) n m := by
  constructor
  · rintro ⟨front, amount, back, hs, hfront, hback, h⟩
    rwa [trim_eq_iff.2 ⟨h.trimmed, front, back, hs, hfront, hback⟩]
  · intro h
    obtain ⟨-, front, back, hs, hfront, hback⟩ := trim_eq_iff.1 (rfl : trim s = trim s)
    exact ⟨front, trim s, back, hs, hfront, hback, h⟩

theorem trim_trim (s : List Char) : trim (trim s) = trim s :=
  trim_eq_iff.2 ⟨trimmed_trim s, [], [], by simp, nofun, nofun⟩

theorem trim_count_append (h : Count s n) (hgap : Blanks gap) : trim (s ++ gap) = s :=
  trim_eq_iff.2 ⟨h.trimmed, [], gap, rfl, nofun, hgap⟩

/-- What is read follows the grammar. -/
theorem amount_of_ofChars? (h : ofChars? s = some d) :
    ∃ n m, Amount (trim s) n m ∧ m.Admits n ∧ d.nanos = n * m.nanos := by
  rcases ofChars?_cases s with ⟨m, r, hs, hread⟩ | hread
  · rw [hread, Measure.read?_eq_some_iff] at h
    obtain ⟨n, hcount, hadmits, hd⟩ := h
    obtain ⟨-, front, gap, hr, hfront, hgap⟩ := trim_eq_iff.1 (rfl : trim r = trim r)
    -- The whole is trimmed, so there is no blank in front of the count.
    have hnil : front = [] := by
      cases front with
      | nil => rfl
      | cons c front =>
        have hbegins := (trimmed_trim s).first
        rw [hs, hr] at hbegins
        have hblank := hfront c List.mem_cons_self
        rw [hbegins c rfl] at hblank
        cases hblank
    rw [hnil, List.nil_append] at hr
    refine ⟨n, m, ?_, hadmits, hd⟩
    rw [hs, hr]
    exact .measured hcount hgap m
  · rw [hread, Measure.read?_eq_some_iff, trim_trim] at h
    obtain ⟨n, hcount, hadmits, hd⟩ := h
    exact ⟨n, .seconds, .bare hcount, hadmits, hd⟩

/-- What follows the grammar is read, if the count is not too large. -/
theorem ofChars?_of_amount (h : Amount (trim s) n m) (hadmits : m.Admits n)
    (hd : d.nanos = n * m.nanos) : ofChars? s = some d := by
  generalize ht : trim s = t at h
  cases h with
  | bare h =>
    rw [← ht] at h
    rw [ofChars?_of_count h, Measure.read?_eq_some_iff, trim_trim]
    exact ⟨n, h, hadmits, hd⟩
  | measured h hgap =>
    rw [ofChars?_of_symbol ht (h.no_letter hgap), Measure.read?_eq_some_iff,
      trim_count_append h hgap]
    exact ⟨n, h, hadmits, hd⟩

end

/-- **The reader reads exactly the grammar.** A text is read as a time span if and only if it says a
count of some measure that is not too large, and then as that many times the measure. Every other
text is refused. -/
theorem read?_exactly_written (s : String) :
    (∀ d, read? s = some d ↔
      ∃ n m, Written s.toList n m ∧ m.Admits n ∧ d.nanos = n * m.nanos) ∧
    (read? s = none ↔ ¬ ∃ n m, Written s.toList n m ∧ m.Admits n) := by
  have hread (d : TimeSpan) : read? s = some d ↔
      ∃ n m, Written s.toList n m ∧ m.Admits n ∧ d.nanos = n * m.nanos := by
    constructor
    · intro h
      obtain ⟨n, m, hamount, hadmits, hd⟩ := amount_of_ofChars? h
      exact ⟨n, m, written_iff.2 hamount, hadmits, hd⟩
    · rintro ⟨n, m, hwritten, hadmits, hd⟩
      exact ofChars?_of_amount (written_iff.1 hwritten) hadmits hd
  refine ⟨hread, ?_, ?_⟩
  · rintro hnone ⟨n, m, hwritten, hadmits⟩
    obtain ⟨d, hd⟩ := hadmits.exists_span
    exact nomatch hnone.symm.trans ((hread d).2 ⟨n, m, hwritten, hadmits, hd⟩)
  · intro h
    cases hd : read? s with
    | none => rfl
    | some d =>
      obtain ⟨n, m, hwritten, hadmits, -⟩ := (hread d).1 hd
      exact absurd ⟨n, m, hwritten, hadmits⟩ h

example : read? " +007 ms" = some (.ofMillis 7) := by
  decide +kernel

end PartitionedRollout.TimeSpan
