/-
# PartitionedRollout.Proofs.Toml.Strings -- written texts read back

Whatever a text holds, `stringChars` writes it so that `string?` reads it back, up to the closing
quotes and no further. There is one lemma for each of the four ways to write a text. Between
double quotes every text reads back, because whatever cannot stand there is escaped; between
single quotes a text reads back if it holds nothing that would have to be.

Over several lines up to two quotes may stand in a row, also in front of the closing ones. The
reader tells them from the closing quotes only by what follows, so the induction is on the text
behind a run of quotes, and the run is handed to the reader as a whole.
-/

import PartitionedRollout.Toml.Quoting

namespace PartitionedRollout.Toml

/-! ## Characters -/

theorem hexValue?_upperHexDigit {n : Nat} (h : n < 16) :
    Json.hexValue? (upperHexDigit n) = some n := by
  have hall : ∀ m < 16, Json.hexValue? (upperHexDigit m) = some m := by decide
  exact hall n h

/-- A character that cannot stand in a text has a small number. -/
theorem toNat_lt_of_not_isTextChar {c : Char} (h : isTextChar c = false) : c.toNat < 128 := by
  simp only [isTextChar, Bool.or_eq_false_iff, Bool.and_eq_false_iff, decide_eq_false_iff_not,
    bne_eq_false_iff_eq] at h
  omega

/-- The number of such a character reads back. -/
theorem scalar?_control {c : Char} (h : c.toNat < 256) :
    scalar? ['0', '0', upperHexDigit (c.toNat / 16), upperHexDigit (c.toNat % 16)] = some c := by
  have hzero : Json.hexValue? '0' = some 0 := rfl
  have hhigh : Json.hexValue? (upperHexDigit (c.toNat / 16)) = some (c.toNat / 16) :=
    hexValue?_upperHexDigit (by omega)
  have hlow : Json.hexValue? (upperHexDigit (c.toNat % 16)) = some (c.toNat % 16) :=
    hexValue?_upperHexDigit (by omega)
  have hnumber : hexNumber? ['0', '0', upperHexDigit (c.toNat / 16), upperHexDigit (c.toNat % 16)] =
      some c.toNat := by
    simp only [hexNumber?, List.foldlM_cons, List.foldlM_nil, hzero, hhigh, hlow]
    show some (16 * (16 * (16 * (16 * 0 + 0) + 0) + c.toNat / 16) + c.toNat % 16) = some c.toNat
    congr 1
    omega
  have hvalid : c.toNat.isValidChar := c.valid
  rw [scalar?, hnumber, Option.bind_some, if_pos hvalid, Char.ofNat_toNat]

/-! ## Escapes -/

/-- A character is written as itself, by a letter or by its number, and each of these is read as the
character. -/
theorem escapeChar_cases (c : Char) :
    (escapeChar c = [c] ∧ isTextChar c = true ∧ c ≠ '\\') ∨
      (∃ l, escapeChar c = ['\\', l] ∧ letter? l = some c) ∨
      ∃ x y, escapeChar c = ['\\', 'u', '0', '0', x, y] ∧ scalar? ['0', '0', x, y] = some c := by
  unfold escapeChar
  split
  next hc => exact Or.inr (Or.inl ⟨'\\', rfl, by rw [hc]; rfl⟩)
  split
  next hc => exact Or.inr (Or.inl ⟨'b', rfl, by rw [hc]; rfl⟩)
  split
  next hc => exact Or.inr (Or.inl ⟨'t', rfl, by rw [hc]; rfl⟩)
  split
  next hc => exact Or.inr (Or.inl ⟨'f', rfl, by rw [hc]; rfl⟩)
  split
  next hc => exact Or.inr (Or.inl ⟨'r', rfl, by rw [hc]; rfl⟩)
  split
  next hslash _ _ _ _ htext => exact Or.inl ⟨rfl, htext, hslash⟩
  next htext =>
    have hsmall : c.toNat < 128 := toNat_lt_of_not_isTextChar (by simpa using htext)
    exact Or.inr (Or.inr ⟨_, _, rfl, scalar?_control (by omega)⟩)

/-- What is written for a character starts with a backslash or with the character. -/
theorem escapeChar_eq_cons (c : Char) :
    ∃ d r, escapeChar c = d :: r ∧ isTextChar d = true ∧ (d = '\\' ∨ d = c) := by
  rcases escapeChar_cases c with ⟨h, htext, -⟩ | ⟨l, h, -⟩ | ⟨x, y, h, -⟩
  · exact ⟨c, [], h, htext, Or.inr rfl⟩
  · exact ⟨'\\', _, h, rfl, Or.inl rfl⟩
  · exact ⟨'\\', _, h, rfl, Or.inl rfl⟩

/-- The letters of escapes by number stand for no character. -/
theorem ne_of_letter? {l c : Char} (h : letter? l = some c) : l ≠ 'u' ∧ l ≠ 'U' := by
  constructor
  all_goals rintro rfl
  all_goals cases h

/-! ## Between double quotes on one line -/

theorem basic?_letter {l c : Char} (hl : letter? l = some c) {s t rest : List Char}
    (h : basic? s = some (t, rest)) : basic? ('\\' :: l :: s) = some (c :: t, rest) := by
  obtain ⟨hu, hU⟩ := ne_of_letter? hl
  rw [basic?]
  · simp [hl, h]
  all_goals simp_all

/-- What is written for a character is read as one character more. -/
theorem basic?_escapeChar {c : Char} (hquote : c ≠ '\x22') {s t rest : List Char}
    (h : basic? s = some (t, rest)) : basic? (escapeChar c ++ s) = some (c :: t, rest) := by
  rcases escapeChar_cases c with ⟨hc, htext, hslash⟩ | ⟨l, hc, hl⟩ | ⟨x, y, hc, hscalar⟩
  · rw [hc, List.singleton_append, basic?]
    · simp [htext, hslash, h]
    all_goals simp_all
  · rw [hc]
    exact basic?_letter hl h
  · simp [hc, basic?, hscalar, h]

/-- A text between double quotes reads back, whatever follows the closing quote. -/
theorem basic?_basicChars (s rest : List Char) :
    basic? (basicChars s ++ '\x22' :: rest) = some (s, rest) := by
  induction s with
  | nil => simp [basicChars, basic?]
  | cons c s ih =>
    rw [basicChars, List.flatMap_cons, List.append_assoc, ← basicChars]
    split
    next hquote =>
      rw [hquote]
      exact basic?_letter rfl ih
    next hquote =>
      split
      next hbreak =>
        rw [hbreak]
        exact basic?_letter rfl ih
      next => exact basic?_escapeChar hquote ih

/-- What is written for another character than a quote does not start with one. -/
theorem head?_escapeChar_append {c : Char} (hc : c ≠ '\x22') (s : List Char) :
    (escapeChar c ++ s).head? ≠ some '\x22' := by
  obtain ⟨d, r, hd, -, hslash | hsame⟩ := escapeChar_eq_cons c
  · simp [hd, hslash]
  · simp [hd, hsame, hc]

/-- The first quote behind the opening one is not part of a text that is not empty. -/
theorem head?_basicChars_append (c : Char) (s rest : List Char) :
    (basicChars (c :: s) ++ rest).head? ≠ some '\x22' := by
  rw [basicChars, List.flatMap_cons, List.append_assoc]
  split
  next => simp
  next hquote =>
    split
    next => simp
    next => exact head?_escapeChar_append hquote _

/-! ## Between single quotes on one line -/

/-- A text without single quotes stands as it is between two of them. -/
theorem literal?_append {s : List Char} (hs : ∀ c ∈ s, isTextChar c = true ∧ c ≠ '\x27')
    (rest : List Char) : literal? (s ++ '\x27' :: rest) = some (s, rest) := by
  induction s with
  | nil => simp [literal?]
  | cons c s ih =>
    obtain ⟨htext, hquote⟩ := hs c List.mem_cons_self
    rw [List.cons_append, literal?]
    · simp [htext, ih fun c' h => hs c' (List.mem_cons_of_mem c h)]
    · exact hquote

/-! ## Between double quotes over several lines -/

/-- A character in front that stands for itself is one character more. -/
theorem multiBasic?_cons {c : Char} (hc : c = '\n' ∨ isTextChar c = true) (hquote : c ≠ '\x22')
    (hslash : c ≠ '\\') {s t rest : List Char} (h : multiBasic? false s = some (t, rest)) :
    multiBasic? false (c :: s) = some (c :: t, rest) := by
  have hreturn : c ≠ '\r' := by
    rintro rfl
    simp [isTextChar] at hc
  rw [multiBasic?]
  · rcases hc with rfl | htext
    · simp [h]
    · simp [htext, hslash, h]
  all_goals simp_all

theorem multiBasic?_letter {l c : Char} (hl : letter? l = some c) {s t rest : List Char}
    (h : multiBasic? false s = some (t, rest)) :
    multiBasic? false ('\\' :: l :: s) = some (c :: t, rest) := by
  obtain ⟨hu, hU⟩ := ne_of_letter? hl
  rw [multiBasic?]
  · simp [hl, h]
  all_goals simp_all

/-- What is written for a character is read as one character more. -/
theorem multiBasic?_escapeChar {c : Char} (hquote : c ≠ '\x22') {s t rest : List Char}
    (h : multiBasic? false s = some (t, rest)) :
    multiBasic? false (escapeChar c ++ s) = some (c :: t, rest) := by
  rcases escapeChar_cases c with ⟨hc, htext, hslash⟩ | ⟨l, hc, hl⟩ | ⟨x, y, hc, hscalar⟩
  · rw [hc]
    exact multiBasic?_cons (Or.inr htext) hquote hslash h
  · rw [hc]
    exact multiBasic?_letter hl h
  · simp [hc, multiBasic?, hscalar, h]

/-- Up to two quotes in front of something else are part of the text. -/
theorem multiBasic?_quotes {run : Nat} (hrun : run ≤ 2) {s t rest : List Char}
    (hs : s.head? ≠ some '\x22') (h : multiBasic? false s = some (t, rest)) :
    multiBasic? false (List.replicate run '\x22' ++ s) =
      some (List.replicate run '\x22' ++ t, rest) := by
  cases s with
  | nil => simp [multiBasic?] at h
  | cons c s =>
    have hc : c ≠ '\x22' := by simpa using hs
    have hone : multiBasic? false ('\x22' :: c :: s) = some ('\x22' :: t, rest) := by
      rw [multiBasic?]
      · simp [isTextChar, h]
      all_goals simp_all
    match run, hrun with
    | 0, _ => exact h
    | 1, _ => exact hone
    | 2, _ =>
      show multiBasic? false ('\x22' :: '\x22' :: c :: s) = some ('\x22' :: '\x22' :: t, rest)
      rw [multiBasic?]
      · simp [isTextChar, hone]
      all_goals simp_all

/-- Up to two quotes in front of the closing ones are part of the text as well. -/
theorem multiBasic?_closing {run : Nat} (hrun : run ≤ 2) {rest : List Char}
    (hrest : rest.head? ≠ some '\x22') :
    multiBasic? false (List.replicate run '\x22' ++ '\x22' :: '\x22' :: '\x22' :: rest) =
      some (List.replicate run '\x22', rest) := by
  match run, hrun with
  | 0, _ =>
    show multiBasic? false ('\x22' :: '\x22' :: '\x22' :: rest) = some ([], rest)
    rw [multiBasic?]
    all_goals rintro _ rfl
    all_goals simp at hrest
  | 1, _ =>
    show multiBasic? false ('\x22' :: '\x22' :: '\x22' :: '\x22' :: rest) = some (['\x22'], rest)
    rw [multiBasic?]
    rintro _ rfl
    simp at hrest
  | 2, _ => rfl

/-- A text between three double quotes reads back behind a run of quotes that counts towards it, if
no quote follows the closing ones. -/
theorem multiBasic?_multiBasicChars {run : Nat} (hrun : run ≤ 2) (s : List Char) {rest : List Char}
    (hrest : rest.head? ≠ some '\x22') :
    multiBasic? false (List.replicate run '\x22' ++
        (multiBasicChars run s ++ '\x22' :: '\x22' :: '\x22' :: rest)) =
      some (List.replicate run '\x22' ++ s, rest) := by
  induction s generalizing run with
  | nil => simpa [multiBasicChars] using multiBasic?_closing hrun hrest
  | cons c s ih =>
    have hnew := ih (Nat.zero_le 2)
    rw [multiBasicChars]
    split
    next hquote =>
      rw [hquote]
      split
      next hfull => exact multiBasic?_quotes hrun (by simp) (multiBasic?_letter rfl hnew)
      next hroom =>
        -- One quote more stands in front of the rest.
        have hmore := ih (show run + 1 ≤ 2 by omega)
        simpa [List.replicate_succ', List.append_assoc] using hmore
    next hquote =>
      split
      next hbreak =>
        rw [hbreak]
        exact multiBasic?_quotes hrun (by simp)
          (multiBasic?_cons (Or.inl rfl) (by decide) (by decide) hnew)
      next =>
        rw [List.append_assoc]
        exact multiBasic?_quotes hrun (head?_escapeChar_append hquote _)
          (multiBasic?_escapeChar hquote hnew)

/-! ## Between single quotes over several lines -/

/-- A character in front that stands for itself is one character more. -/
theorem multiLiteral?_cons {c : Char} (hc : isTextChar c = true ∨ c = '\n') (hquote : c ≠ '\x27')
    {s t rest : List Char} (h : multiLiteral? s = some (t, rest)) :
    multiLiteral? (c :: s) = some (c :: t, rest) := by
  have hreturn : c ≠ '\r' := by
    rintro rfl
    simp [isTextChar] at hc
  rw [multiLiteral?]
  · simp [hc.symm, h]
  all_goals simp_all

/-- Up to two quotes in front of something else are part of the text. -/
theorem multiLiteral?_quotes {run : Nat} (hrun : run ≤ 2) {s t rest : List Char}
    (hs : s.head? ≠ some '\x27') (h : multiLiteral? s = some (t, rest)) :
    multiLiteral? (List.replicate run '\x27' ++ s) =
      some (List.replicate run '\x27' ++ t, rest) := by
  cases s with
  | nil => simp [multiLiteral?] at h
  | cons c s =>
    have hc : c ≠ '\x27' := by simpa using hs
    have hone : multiLiteral? ('\x27' :: c :: s) = some ('\x27' :: t, rest) := by
      rw [multiLiteral?]
      · simp [isTextChar, h]
      all_goals simp_all
    match run, hrun with
    | 0, _ => exact h
    | 1, _ => exact hone
    | 2, _ =>
      show multiLiteral? ('\x27' :: '\x27' :: c :: s) = some ('\x27' :: '\x27' :: t, rest)
      rw [multiLiteral?]
      · simp [isTextChar, hone]
      all_goals simp_all

/-- Up to two quotes in front of the closing ones are part of the text as well. -/
theorem multiLiteral?_closing {run : Nat} (hrun : run ≤ 2) {rest : List Char}
    (hrest : rest.head? ≠ some '\x27') :
    multiLiteral? (List.replicate run '\x27' ++ '\x27' :: '\x27' :: '\x27' :: rest) =
      some (List.replicate run '\x27', rest) := by
  match run, hrun with
  | 0, _ =>
    show multiLiteral? ('\x27' :: '\x27' :: '\x27' :: rest) = some ([], rest)
    rw [multiLiteral?]
    all_goals rintro _ rfl
    all_goals simp at hrest
  | 1, _ =>
    show multiLiteral? ('\x27' :: '\x27' :: '\x27' :: '\x27' :: rest) = some (['\x27'], rest)
    rw [multiLiteral?]
    rintro _ rfl
    simp at hrest
  | 2, _ => rfl

theorem le_longestRunFrom (c : Char) (run : Nat) (s : List Char) :
    run ≤ longestRunFrom c run s := by
  induction s generalizing run with
  | nil => exact Nat.le_refl run
  | cons x s ih =>
    rw [longestRunFrom]
    split
    · exact Nat.le_trans (Nat.le_succ run) (ih (run + 1))
    · exact Nat.le_max_left _ _

/-- A text with at most two single quotes in a row reads back between three of them. -/
theorem multiLiteral?_append {run : Nat} {s : List Char}
    (hs : ∀ c ∈ s, isTextChar c = true ∨ c = '\n') (hrun : longestRunFrom '\x27' run s ≤ 2)
    {rest : List Char} (hrest : rest.head? ≠ some '\x27') :
    multiLiteral? (List.replicate run '\x27' ++
        (s ++ '\x27' :: '\x27' :: '\x27' :: rest)) =
      some (List.replicate run '\x27' ++ s, rest) := by
  induction s generalizing run with
  | nil => simpa using multiLiteral?_closing (show run ≤ 2 from hrun) hrest
  | cons c s ih =>
    have hs' : ∀ c' ∈ s, isTextChar c' = true ∨ c' = '\n' :=
      fun c' h => hs c' (List.mem_cons_of_mem c h)
    rw [longestRunFrom] at hrun
    split at hrun
    next hquote =>
      have hmore := ih hs' hrun
      rw [hquote]
      simpa [List.replicate_succ', List.append_assoc] using hmore
    next hquote =>
      obtain ⟨hbefore, hbehind⟩ := Nat.max_le.1 hrun
      exact multiLiteral?_quotes hbefore (by simpa using hquote)
        (multiLiteral?_cons (hs c List.mem_cons_self) hquote (ih hs' hbehind))

/-! ## What the plain ways hold -/

theorem not_mem_of_longestRunFrom_le {c : Char} {run : Nat} {s : List Char}
    (h : longestRunFrom c run s ≤ 0) : c ∉ s := by
  induction s generalizing run with
  | nil => exact List.not_mem_nil
  | cons x s ih =>
    rw [longestRunFrom] at h
    split at h
    next =>
      have hone := le_longestRunFrom c (run + 1) s
      omega
    next hx =>
      rw [List.mem_cons, not_or]
      exact ⟨Ne.symm hx, ih (Nat.max_le.1 h).2⟩

theorem isTextChar_of_not_needsEscape {c : Char} (h : needsEscape c = false) :
    isTextChar c = true ∨ c = '\n' := by
  cases htext : isTextChar c with
  | true => exact Or.inl rfl
  | false => exact Or.inr (by simpa [needsEscape, htext] using h)

theorem Style.chars_of_literal {s : List Char} (h : Style.literal.holds s = true) :
    ∀ c ∈ s, isTextChar c = true ∧ c ≠ '\x27' := by
  simp only [Style.holds, Bool.and_eq_true, Bool.not_eq_true', List.any_eq_false, beq_iff_eq,
    List.contains_eq_mem, decide_eq_false_iff_not] at h
  obtain ⟨⟨hplain, hrun⟩, hbreak⟩ := h
  intro c hc
  have hquote : '\x27' ∉ s := not_mem_of_longestRunFrom_le (Nat.le_of_eq hrun)
  refine ⟨?_, fun heq => hquote (heq ▸ hc)⟩
  rcases isTextChar_of_not_needsEscape (by simpa using hplain c hc) with htext | rfl
  · exact htext
  · exact absurd hc hbreak

theorem Style.chars_of_multiLiteral {s : List Char} (h : Style.multiLiteral.holds s = true) :
    (∀ c ∈ s, isTextChar c = true ∨ c = '\n') ∧ longestRunFrom '\x27' 0 s ≤ 2 := by
  simp only [Style.holds, Bool.and_eq_true, Bool.not_eq_true', List.any_eq_false,
    decide_eq_true_eq] at h
  obtain ⟨hplain, hrun⟩ := h
  exact ⟨fun c hc => isTextChar_of_not_needsEscape (by simpa using hplain c hc), hrun⟩

/-- A text is written with escapes or in a way that holds it. -/
theorem Style.of_cases (s : List Char) :
    Style.of s = .basic ∨ Style.of s = .multiBasic ∨
      Style.of s = .literal ∧ Style.literal.holds s = true ∨
      Style.of s = .multiLiteral ∧ Style.multiLiteral.holds s = true := by
  unfold Style.of
  split
  next => exact Or.inl rfl
  split
  next h => exact Or.inr (Or.inr (Or.inl ⟨rfl, h⟩))
  split
  next => exact Or.inr (Or.inl rfl)
  split
  next h => exact Or.inr (Or.inr (Or.inr ⟨rfl, h⟩))
  split
  next => exact Or.inr (Or.inl rfl)
  next => exact Or.inl rfl

/-! ## Strings of any kind -/

/-- A line break behind the opening quotes is there if the text has one, so that none of the text is
taken for it. -/
theorem skipLineBreak_openingBreak {s body : List Char}
    (h : '\n' ∉ s → body.head? ≠ some '\n' ∧ body.head? ≠ some '\r') :
    skipLineBreak (openingBreak s ++ body) = body := by
  unfold openingBreak
  split
  next => rfl
  next hs =>
    obtain ⟨hbreak, hreturn⟩ := h (by simpa using hs)
    cases body with
    | nil => rfl
    | cons c body =>
      rw [List.nil_append, skipLineBreak, lineBreak?]
      · rfl
      all_goals simp_all

/-- A text without line breaks is not written with one in front. -/
theorem head?_multiBasicChars_append {s : List Char} (hs : '\n' ∉ s) (rest : List Char) :
    (multiBasicChars 0 s ++ '\x22' :: rest).head? ≠ some '\n' ∧
      (multiBasicChars 0 s ++ '\x22' :: rest).head? ≠ some '\r' := by
  cases s with
  | nil => simp [multiBasicChars]
  | cons c s =>
    have hc : c ≠ '\n' := fun heq => hs (heq ▸ List.mem_cons_self)
    rw [multiBasicChars]
    split
    next => simp
    next =>
      obtain ⟨d, r, hd, htext, -⟩ := escapeChar_eq_cons c
      rw [hd]
      refine ⟨?_, ?_⟩
      all_goals rintro ⟨⟩
      all_goals cases htext

variable {s rest : List Char}

theorem string?_basic (s : List Char) (hrest : rest.head? ≠ some '\x22') :
    string? (Style.basic.write s ++ rest) = some (s, rest) := by
  -- Two quotes in a row open a string over several lines only if a third one follows.
  have hone : ∀ r, basicChars s ++ '\x22' :: rest ≠ '\x22' :: '\x22' :: r := by
    intro r heq
    cases s with
    | nil => simp_all [basicChars]
    | cons c s => exact head?_basicChars_append c s _ (by rw [heq]; rfl)
  show string? ('\x22' :: (basicChars s ++ ['\x22']) ++ rest) = some (s, rest)
  rw [List.cons_append, List.append_assoc, List.singleton_append, string?]
  · exact basic?_basicChars s rest
  · exact hone

theorem string?_literal (hs : Style.literal.holds s = true) (hrest : rest.head? ≠ some '\x27') :
    string? (Style.literal.write s ++ rest) = some (s, rest) := by
  have hchars := Style.chars_of_literal hs
  have hone : ∀ r, s ++ '\x27' :: rest ≠ '\x27' :: '\x27' :: r := by
    intro r heq
    cases s with
    | nil => simp_all
    | cons c s => exact (hchars c List.mem_cons_self).2 (List.cons.inj heq).1
  show string? ('\x27' :: (s ++ ['\x27']) ++ rest) = some (s, rest)
  rw [List.cons_append, List.append_assoc, List.singleton_append, string?]
  · exact literal?_append hchars rest
  · exact hone

theorem string?_multiBasic (s : List Char) (hrest : rest.head? ≠ some '\x22') :
    string? (Style.multiBasic.write s ++ rest) = some (s, rest) := by
  have hbody : string? (Style.multiBasic.write s ++ rest) =
      multiBasic? false (skipLineBreak (openingBreak s ++
        (multiBasicChars 0 s ++ '\x22' :: '\x22' :: '\x22' :: rest))) := by
    simp [Style.write, string?]
  rw [hbody, skipLineBreak_openingBreak fun hs => head?_multiBasicChars_append hs _]
  exact multiBasic?_multiBasicChars (Nat.zero_le 2) s hrest

theorem string?_multiLiteral (hs : Style.multiLiteral.holds s = true)
    (hrest : rest.head? ≠ some '\x27') :
    string? (Style.multiLiteral.write s ++ rest) = some (s, rest) := by
  obtain ⟨hchars, hrun⟩ := Style.chars_of_multiLiteral hs
  have hbody : string? (Style.multiLiteral.write s ++ rest) =
      multiLiteral? (skipLineBreak (openingBreak s ++
        (s ++ '\x27' :: '\x27' :: '\x27' :: rest))) := by
    simp [Style.write, string?]
  rw [hbody, skipLineBreak_openingBreak]
  · exact multiLiteral?_append hchars hrun hrest
  intro hbreak
  cases s with
  | nil => simp
  | cons c s =>
    have hc : isTextChar c = true := by
      rcases hchars c List.mem_cons_self with hc | rfl
      · exact hc
      · exact absurd List.mem_cons_self hbreak
    refine ⟨?_, ?_⟩
    all_goals rintro ⟨⟩
    all_goals cases hc

/-- **Texts.** Whatever a text holds, it reads back from the string it is written as, if no quote
follows. -/
theorem string?_stringChars (s : List Char) (hdouble : rest.head? ≠ some '\x22')
    (hsingle : rest.head? ≠ some '\x27') : string? (stringChars s ++ rest) = some (s, rest) := by
  unfold stringChars
  rcases Style.of_cases s with h | h | ⟨h, hs⟩ | ⟨h, hs⟩
  · exact h ▸ string?_basic s hdouble
  · exact h ▸ string?_multiBasic s hdouble
  · exact h ▸ string?_literal hs hsingle
  · exact h ▸ string?_multiLiteral hs hsingle

/-- Each of the four ways is taken, and escapes are the last resort. -/
example : ["a", "\x22", "\x22'", "''\\", "\x22\x22\x22'''"].map (fun s => Style.of s.toList) =
    [.basic, .literal, .multiBasic, .multiLiteral, .basic] := by
  decide

end PartitionedRollout.Toml
