/-
# PartitionedRollout.Proofs.Text.ByteOrder -- the order of texts is the order of their bytes

Texts are compared character by character, and a table on disk compares bytes. `lt_iff_utf8_lt`
shows that both orders are one: UTF-8 gives a smaller character the smaller sequence of bytes, and
the two sequences differ before either of them ends, so that nothing behind them matters.
-/

namespace PartitionedRollout.Text

/-- The bytes of a text. -/
def utf8 (s : String) : List UInt8 :=
  s.toUTF8.data.toList

/-- They are those of its characters in a row. -/
theorem utf8_eq_flatMap (s : String) : utf8 s = s.toList.flatMap String.utf8EncodeChar := by
  rw [utf8, String.toUTF8_eq_toByteArray, ← String.utf8Encode_toList, List.utf8Encode,
    List.toList_data_toByteArray]

/-- Sequences that differ in the first byte are compared by it. -/
theorem cons_lt_of_lt {m n : Nat} {l l' : List UInt8} (h : m < n) (hn : n < 256) :
    UInt8.ofNat m :: l < UInt8.ofNat n :: l' := by
  refine List.cons_lt_cons_iff.2 (.inl (UInt8.lt_iff_toNat_lt.2 ?_))
  rw [UInt8.toNat_ofNat_of_lt' (Nat.lt_trans h hn), UInt8.toNat_ofNat_of_lt' hn]
  exact h

/-- A smaller first byte decides, and after an equal one the rest does. -/
theorem cons_lt_of_le {m n : Nat} {l l' : List UInt8} (h : m ≤ n) (hn : n < 256)
    (hrest : m = n → l < l') : UInt8.ofNat m :: l < UInt8.ofNat n :: l' := by
  rcases Nat.lt_or_eq_of_le h with hlt | rfl
  · exact cons_lt_of_lt hlt hn
  · exact List.cons_lt_cons_iff.2 (.inr ⟨rfl, hrest rfl⟩)

/-- **One character.** The bytes of a smaller character come first, whatever follows. -/
theorem utf8EncodeChar_append_lt {c d : Char} (h : c < d) (l l' : List UInt8) :
    String.utf8EncodeChar c ++ l < String.utf8EncodeChar d ++ l' := by
  have hcd : c.val.toNat < d.val.toNat := h
  have hd : d.val.toNat < 1114112 := by
    rcases d.valid with hsmall | ⟨-, hlarge⟩
    · exact Nat.lt_trans hsmall (by decide)
    · exact hlarge
  simp only [String.utf8EncodeChar]
  -- One case for each pair of lengths; the character with more bytes is never the smaller one.
  split
  · split
    · exact cons_lt_of_lt hcd (by omega)
    split
    · exact cons_lt_of_lt (by omega) (by omega)
    split <;> exact cons_lt_of_lt (by omega) (by omega)
  split
  · split
    · omega
    split
    · refine cons_lt_of_le (by omega) (by omega) fun _ => ?_
      exact cons_lt_of_lt (by omega) (by omega)
    split <;> exact cons_lt_of_lt (by omega) (by omega)
  split
  · split
    · omega
    split
    · omega
    split
    · refine cons_lt_of_le (by omega) (by omega) fun _ => ?_
      refine cons_lt_of_le (by omega) (by omega) fun _ => ?_
      exact cons_lt_of_lt (by omega) (by omega)
    · exact cons_lt_of_lt (by omega) (by omega)
  · split
    · omega
    split
    · omega
    split
    · omega
    · refine cons_lt_of_le (by omega) (by omega) fun _ => ?_
      refine cons_lt_of_le (by omega) (by omega) fun _ => ?_
      refine cons_lt_of_le (by omega) (by omega) fun _ => ?_
      exact cons_lt_of_lt (by omega) (by omega)

theorem flatMap_utf8EncodeChar_lt {l l' : List Char} (h : l < l') :
    l.flatMap String.utf8EncodeChar < l'.flatMap String.utf8EncodeChar := by
  induction l generalizing l' with
  | nil =>
    cases l' with
    | nil => exact absurd h (List.lt_irrefl _)
    | cons d l' =>
      obtain ⟨b, bs, hbytes⟩ := List.exists_cons_of_ne_nil (String.utf8EncodeChar_ne_nil (c := d))
      rw [List.flatMap_nil, List.flatMap_cons, hbytes]
      exact List.nil_lt_cons b _
  | cons c l ih =>
    cases l' with
    | nil => exact absurd h (List.not_lt_nil _)
    | cons d l' =>
      rw [List.flatMap_cons, List.flatMap_cons]
      rcases List.cons_lt_cons_iff.1 h with hlt | ⟨rfl, hrest⟩
      · exact utf8EncodeChar_append_lt hlt _ _
      · exact List.append_left_lt (ih hrest)

/-- Different characters have different bytes. -/
theorem flatMap_utf8EncodeChar_inj {l l' : List Char} :
    l.flatMap String.utf8EncodeChar = l'.flatMap String.utf8EncodeChar ↔ l = l' := by
  constructor
  · intro h
    rcases Std.lt_trichotomy l l' with hlt | heq | hgt
    · exact absurd (h ▸ flatMap_utf8EncodeChar_lt hlt) (List.lt_irrefl _)
    · exact heq
    · exact absurd (h ▸ flatMap_utf8EncodeChar_lt hgt) (List.lt_irrefl _)
  · rintro rfl
    rfl

theorem utf8_lt_of_lt {s t : String} (h : s < t) : utf8 s < utf8 t := by
  rw [utf8_eq_flatMap, utf8_eq_flatMap]
  exact flatMap_utf8EncodeChar_lt h

/-- **The order of texts is the order of their bytes.** -/
theorem lt_iff_utf8_lt {s t : String} : s < t ↔ utf8 s < utf8 t := by
  constructor
  · exact utf8_lt_of_lt
  · intro h
    rcases Std.lt_trichotomy s t with hlt | rfl | hgt
    · exact hlt
    · exact absurd h (List.lt_irrefl _)
    · exact absurd (utf8_lt_of_lt hgt) (List.lt_asymm h)

end PartitionedRollout.Text
