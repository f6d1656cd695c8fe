/-
# PartitionedRollout.Proofs.Text.Trim -- what trimming leaves

A text is trimmed when it neither begins nor ends with a blank. Whatever the text, there is exactly
one trimmed text from which it comes by putting blanks in front and behind, and this is the one that
trimming leaves: `trim_eq_iff`.
-/

import Mathlib.Data.List.TakeWhile
import PartitionedRollout.Text.Blank

namespace PartitionedRollout.Text

variable {s t front back : List Char}

/-- Nothing but blanks. -/
def Blanks (s : List Char) : Prop :=
  ∀ c ∈ s, isBlank c = true

/-- The text does not begin with a blank. -/
def BeginsTrimmed (s : List Char) : Prop :=
  ∀ c ∈ s.head?, isBlank c = false

/-- There is a blank at neither end. -/
structure Trimmed (s : List Char) : Prop where
  /-- None at the beginning. -/
  first : BeginsTrimmed s
  /-- None at the end. -/
  last : BeginsTrimmed s.reverse

theorem Blanks.reverse (h : Blanks s) : Blanks s.reverse :=
  fun c hc => h c (List.mem_reverse.1 hc)

/-! ## One end -/

theorem trimStart_blanks_append (h : Blanks front) : trimStart (front ++ s) = trimStart s :=
  List.dropWhile_append_of_pos h

theorem trimStart_eq_self (h : BeginsTrimmed s) : trimStart s = s := by
  cases s with
  | nil => rfl
  | cons c s => exact List.dropWhile_cons_of_neg (by simpa using h c rfl)

theorem beginsTrimmed_trimStart (s : List Char) : BeginsTrimmed (trimStart s) := by
  intro c hc
  have hfirst := List.head?_dropWhile_not isBlank s
  rwa [show (s.dropWhile isBlank).head? = some c from hc] at hfirst

/-- Only blanks are taken away. -/
theorem exists_trimStart (s : List Char) : ∃ front, s = front ++ trimStart s ∧ Blanks front :=
  ⟨s.takeWhile isBlank, List.takeWhile_append_dropWhile.symm, fun _ => List.mem_takeWhile_imp⟩

/-- The end is the beginning of the text read backwards. -/
theorem trimEnd_eq (s : List Char) : trimEnd s = (trimStart s.reverse).reverse :=
  rfl

theorem trimEnd_append_blanks (h : Blanks back) : trimEnd (s ++ back) = trimEnd s := by
  rw [trimEnd_eq, List.reverse_append, trimStart_blanks_append h.reverse, ← trimEnd_eq]

theorem trimEnd_eq_self (h : BeginsTrimmed s.reverse) : trimEnd s = s := by
  rw [trimEnd_eq, trimStart_eq_self h, List.reverse_reverse]

theorem exists_trimEnd (s : List Char) : ∃ back, s = trimEnd s ++ back ∧ Blanks back := by
  obtain ⟨front, hs, hfront⟩ := exists_trimStart s.reverse
  refine ⟨front.reverse, ?_, hfront.reverse⟩
  rw [trimEnd_eq, ← List.reverse_append, ← hs, List.reverse_reverse]

/-! ## Both ends -/

/-- What stands in front of other characters may go on to begin the text. -/
theorem BeginsTrimmed.of_append (h : BeginsTrimmed (s ++ t)) (hs : s ≠ []) : BeginsTrimmed s := by
  cases s with
  | nil => exact absurd rfl hs
  | cons c s => exact h

theorem BeginsTrimmed.append (h : BeginsTrimmed s) (hs : s ≠ []) (t : List Char) :
    BeginsTrimmed (s ++ t) := by
  cases s with
  | nil => exact absurd rfl hs
  | cons c s => exact h

theorem trimmed_trim (s : List Char) : Trimmed (trim s) := by
  constructor
  case first =>
    by_cases hnil : trim s = []
    · rw [hnil]
      exact fun _ hc => nomatch hc
    · obtain ⟨back, hback, -⟩ := exists_trimEnd (trimStart s)
      have hbegins := beginsTrimmed_trimStart s
      rw [hback] at hbegins
      exact hbegins.of_append hnil
  case last =>
    rw [trim, trimEnd_eq, List.reverse_reverse]
    exact beginsTrimmed_trimStart _

theorem trim_blanks (h : Blanks s) : trim s = [] := by
  rw [trim, show trimStart s = [] from List.dropWhile_eq_nil_iff.2 h]
  rfl

/-- **Trimming leaves the one trimmed text** that is the given one but for blanks around it. -/
theorem trim_eq_iff :
    trim s = t ↔ Trimmed t ∧ ∃ front back, s = front ++ t ++ back ∧ Blanks front ∧ Blanks back := by
  constructor
  · rintro rfl
    obtain ⟨front, hfront, hfrontBlank⟩ := exists_trimStart s
    obtain ⟨back, hback, hbackBlank⟩ := exists_trimEnd (trimStart s)
    refine ⟨trimmed_trim s, front, back, ?_, hfrontBlank, hbackBlank⟩
    rw [List.append_assoc, trim, ← hback, ← hfront]
  · rintro ⟨ht, front, back, rfl, hfront, hback⟩
    rw [List.append_assoc, trim, trimStart_blanks_append hfront]
    by_cases hnil : t = []
    · rw [hnil, List.nil_append]
      exact trim_blanks hback
    · rw [trimStart_eq_self (ht.first.append hnil back), trimEnd_append_blanks hback,
        trimEnd_eq_self ht.last]

end PartitionedRollout.Text
