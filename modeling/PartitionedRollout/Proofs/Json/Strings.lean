/-
# PartitionedRollout.Proofs.Json.Strings -- the spellings of a string

A string can be written in many ways: most characters may stand for themselves, be escaped by a
letter or be escaped by number. `Body` says what may stand between the quotes, together with the
pieces that it is made of, and `pieces?` takes it apart into just these, up to the closing quote.
What `escape` writes is one such spelling. Only the controls without a letter of their own are
escaped by number there, and none of those is half of a pair, so that joining never has to look at
two pieces at once.
-/

import PartitionedRollout.Json.Printer

namespace PartitionedRollout.Json

/-- What may stand between the quotes of a string, with its pieces. -/
inductive Body : List Char → List Piece → Prop where
  | nil : Body [] []
  /-- A character that is neither a control nor a quote nor a backslash stands for itself. -/
  | plain {c : Char} {s : List Char} {ps : List Piece} (hcontrol : 0x20 ≤ c.toNat)
      (hquote : c ≠ '\x22') (hslash : c ≠ '\\') (rest : Body s ps) : Body (c :: s) (.plain c :: ps)
  /-- A letter behind a backslash. -/
  | letter {l c : Char} {s : List Char} {ps : List Piece} (h : letter? l = some c)
      (rest : Body s ps) : Body ('\\' :: l :: s) (.plain c :: ps)
  /-- Four hexadecimal digits. -/
  | unit {a b c d : Char} {u : Nat} {s : List Char} {ps : List Piece} (h : unit? a b c d = some u)
      (rest : Body s ps) : Body ('\\' :: 'u' :: a :: b :: c :: d :: s) (.unit u :: ps)

/-- What stands between the quotes is taken apart up to the closing quote. -/
theorem Body.pieces? {s : List Char} {ps : List Piece} (h : Body s ps) (rest : List Char) :
    pieces? (s ++ '\x22' :: rest) = some (ps, rest) := by
  induction h with
  | nil => rfl
  | plain hcontrol hquote hslash _ ih =>
    -- The character is neither the quote nor the backslash, which the reader looks for first.
    rw [List.cons_append, Json.pieces?]
    · simp [hslash, ih, Nat.not_lt.2 hcontrol]
    · exact hquote
    · rintro _ _ _ _ _ rfl
      exact absurd rfl hslash
    · rintro _ _ rfl
      exact absurd rfl hslash
  | letter hl _ ih =>
    rw [List.cons_append, List.cons_append, Json.pieces?]
    · simp [hl, ih]
    · rintro _ _ _ _ _ rfl
      cases hl
  | unit hu _ ih =>
    simp only [List.cons_append, Json.pieces?, hu, ih]
    rfl

/-! ## Escaped texts -/

theorem hexValue?_hexDigit {n : Nat} (h : n < 16) : hexValue? (hexDigit n) = some n := by
  have hall : ∀ m < 16, hexValue? (hexDigit m) = some m := by decide
  exact hall n h

/-- The number of a control character reads back. -/
theorem unit?_control {c : Char} (h : c.toNat < 0x20) :
    unit? '0' '0' (hexDigit (c.toNat / 16)) (hexDigit (c.toNat % 16)) = some c.toNat := by
  have hzero : hexValue? '0' = some 0 := rfl
  have hhigh : hexValue? (hexDigit (c.toNat / 16)) = some (c.toNat / 16) :=
    hexValue?_hexDigit (by omega)
  have hlow : hexValue? (hexDigit (c.toNat % 16)) = some (c.toNat % 16) :=
    hexValue?_hexDigit (by omega)
  simp only [unit?, hzero, hhigh, hlow]
  congr 1
  omega

/-- A unit that is no half of a pair joins as the character that it is. -/
theorem join_unit {u : Nat} (h : u < 0xD800) (ps : List Piece) :
    join (.unit u :: ps) = (join ps).map (Char.ofNat u :: ·) := by
  have hhigh : isHighUnit u = false := by
    simp only [isHighUnit, Bool.and_eq_false_iff, decide_eq_false_iff_not]
    omega
  have hlow : isLowUnit u = false := by
    simp only [isLowUnit, Bool.and_eq_false_iff, decide_eq_false_iff_not]
    omega
  cases ps with
  | nil => simp [join, hhigh, hlow]
  | cons p ps => cases p <;> simp [join, hhigh, hlow]

/-- An escaped character in front is one piece in front, which joins as the character. -/
theorem body_escapeChar (c : Char) {s : List Char} {ps : List Piece} (h : Body s ps) :
    ∃ p, Body (escapeChar c ++ s) (p :: ps) ∧ join (p :: ps) = (join ps).map (c :: ·) := by
  unfold escapeChar
  -- Seven characters have letters of their own, then come the other controls and all the rest.
  split
  next hc => exact ⟨.plain c, .letter (by rw [hc]; rfl) h, rfl⟩
  split
  next hc => exact ⟨.plain c, .letter (by rw [hc]; rfl) h, rfl⟩
  split
  next hc => exact ⟨.plain c, .letter (by rw [hc]; rfl) h, rfl⟩
  split
  next hc => exact ⟨.plain c, .letter (by rw [hc]; rfl) h, rfl⟩
  split
  next hc => exact ⟨.plain c, .letter (by rw [hc]; rfl) h, rfl⟩
  split
  next hc => exact ⟨.plain c, .letter (by rw [hc]; rfl) h, rfl⟩
  split
  next hc => exact ⟨.plain c, .letter (by rw [hc]; rfl) h, rfl⟩
  split
  next hc =>
    refine ⟨.unit c.toNat, .unit (unit?_control hc) h, ?_⟩
    rw [join_unit (by omega), Char.ofNat_toNat]
  next hquote hslash _ _ _ _ _ hc => exact ⟨.plain c, .plain (by omega) hquote hslash h, rfl⟩

/-- An escaped text may stand between quotes, and its pieces join as the text. -/
theorem body_escape (s : List Char) : ∃ ps, Body (escape s) ps ∧ join ps = some s := by
  induction s with
  | nil => exact ⟨[], .nil, rfl⟩
  | cons c s ih =>
    obtain ⟨ps, hps, hjoin⟩ := ih
    obtain ⟨p, hp, hjoin'⟩ := body_escapeChar c hps
    refine ⟨p :: ps, hp, ?_⟩
    rw [hjoin', hjoin]
    rfl

end PartitionedRollout.Json
