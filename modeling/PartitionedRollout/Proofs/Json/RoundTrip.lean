/-
# PartitionedRollout.Proofs.Json.RoundTrip -- written values read back

A value is followed through its tokens: `tokensOf` is the list of them. In this list every number is
followed by a separator or an end, so every text that spells it scans as it, and the reader builds
the value from it. The two halves meet in `ofChars?_of_spells`. What a writer produces, with or
without white space, is one of these texts. There values with a number that is kept as a literal are
left out: such a literal may be any text.
-/

import PartitionedRollout.Json.Reader
import PartitionedRollout.Proofs.Json.Layout

namespace PartitionedRollout.Json

open Text

/-- A property of all values, by way of the items of arrays and the members of objects. -/
theorem induction {motive : Json → Prop} (null : motive .null) (bool : ∀ b, motive (.bool b))
    (natural : ∀ n, motive (.natural n)) (number : ∀ s, motive (.number s))
    (string : ∀ s, motive (.string s))
    (array : ∀ items, (∀ v ∈ items, motive v) → motive (.array items))
    (object : ∀ members, (∀ m ∈ members, motive m.2) → motive (.object members)) (v : Json) :
    motive v := by
  match v with
  | .null => exact null
  | .bool b => exact bool b
  | .natural n => exact natural n
  | .number s => exact number s
  | .string s => exact string s
  | .array items =>
    exact array items fun u _ => induction null bool natural number string array object u
  | .object members =>
    exact object members fun m _ => induction null bool natural number string array object m.2
termination_by sizeOf v
decreasing_by
  · have := List.sizeOf_lt_of_mem ‹u ∈ items›
    simp only [Json.array.sizeOf_spec]
    omega
  · have := List.sizeOf_lt_of_mem ‹m ∈ members›
    obtain ⟨k, u⟩ := m
    simp only [Json.object.sizeOf_spec, Prod.mk.sizeOf_spec] at this ⊢
    omega

/-! ## Tokens of a value -/

mutual

/-- The tokens of a value. -/
def tokensOf : Json → List Token
  | .null => [.null]
  | .bool b => [.bool b]
  | .natural n => [.natural n]
  | .number s => [.number s]
  | .string s => [.string s]
  | .array [] => [.leftBracket, .rightBracket]
  | .array (v :: vs) => .leftBracket :: (tokensOf v ++ itemTokens vs)
  | .object [] => [.leftBrace, .rightBrace]
  | .object ((k, v) :: ms) => .leftBrace :: .string k :: .colon :: (tokensOf v ++ memberTokens ms)

/-- The tokens of the further items of an array and of its end. -/
def itemTokens : List Json → List Token
  | [] => [.rightBracket]
  | v :: vs => .comma :: (tokensOf v ++ itemTokens vs)

/-- The tokens of the further members of an object and of its end. -/
def memberTokens : List (Option String × Json) → List Token
  | [] => [.rightBrace]
  | (k, v) :: ms => .comma :: .string k :: .colon :: (tokensOf v ++ memberTokens ms)

end

/-! ## Scanning -/

/-- The tokens of a value are separated, in front of whatever may follow a value. -/
def Separates (v : Json) : Prop :=
  ∀ ts, (∀ u ∈ ts.head?, u.Closes) → Separated ts → Separated (tokensOf v ++ ts)

theorem closes_itemTokens (vs : List Json) (ts : List Token) :
    ∀ u ∈ (itemTokens vs ++ ts).head?, u.Closes := by
  cases vs <;> simp [itemTokens, Token.Closes]

theorem closes_memberTokens (ms : List (Option String × Json)) (ts : List Token) :
    ∀ u ∈ (memberTokens ms ++ ts).head?, u.Closes := by
  cases ms <;> simp [memberTokens, Token.Closes]

theorem separated_itemTokens {vs : List Json} (h : ∀ v ∈ vs, Separates v) {ts : List Token}
    (hts : Separated ts) : Separated (itemTokens vs ++ ts) := by
  induction vs with
  | nil => exact .cons nofun hts
  | cons v vs ih =>
    rw [itemTokens, List.cons_append, List.append_assoc]
    exact .cons nofun (h v List.mem_cons_self _ (closes_itemTokens vs ts)
      (ih fun u hu => h u (List.mem_cons_of_mem _ hu)))

theorem separated_memberTokens {ms : List (Option String × Json)} (h : ∀ m ∈ ms, Separates m.2)
    {ts : List Token} (hts : Separated ts) : Separated (memberTokens ms ++ ts) := by
  induction ms with
  | nil => exact .cons nofun hts
  | cons m ms ih =>
    obtain ⟨k, v⟩ := m
    simp only [memberTokens, List.cons_append, List.append_assoc]
    exact .cons nofun (.cons nofun (.cons nofun (h (k, v) List.mem_cons_self _
      (closes_memberTokens ms ts) (ih fun m hm => h m (List.mem_cons_of_mem _ hm)))))

theorem separates (v : Json) : Separates v := by
  induction v using induction with
  | null | bool | string => exact fun ts _ hts => .cons nofun hts
  | natural | number => exact fun ts hcloses hts => .cons (fun _ => hcloses) hts
  | array items ih =>
    intro ts _ hts
    cases items with
    | nil => exact .cons nofun (.cons nofun hts)
    | cons v vs =>
      rw [tokensOf, List.cons_append, List.append_assoc]
      exact .cons nofun (ih v List.mem_cons_self _ (closes_itemTokens vs ts)
        (separated_itemTokens (fun u hu => ih u (List.mem_cons_of_mem _ hu)) hts))
  | object members ih =>
    intro ts _ hts
    cases members with
    | nil => exact .cons nofun (.cons nofun hts)
    | cons m ms =>
      obtain ⟨k, v⟩ := m
      simp only [tokensOf, List.cons_append, List.append_assoc]
      exact .cons nofun (.cons nofun (.cons nofun (ih (k, v) List.mem_cons_self _
        (closes_memberTokens ms ts)
        (separated_memberTokens (fun m hm => ih m (List.mem_cons_of_mem _ hm)) hts))))

/-! ## Building -/

@[simp]
theorem run_nil (e : Expecting) : e.run [] = some e :=
  rfl

@[simp]
theorem run_cons (e : Expecting) (t : Token) (ts : List Token) :
    e.run (t :: ts) = (e.step t).bind fun e => e.run ts := by
  simp [Expecting.run]

/-- The reader builds a value from its tokens, wherever a value may stand. -/
def Builds (v : Json) : Prop :=
  ∀ outer ts, (Expecting.value outer).run (tokensOf v ++ ts) = (Expecting.after v outer).run ts

theorem run_itemTokens {vs : List Json} (h : ∀ v ∈ vs, Builds v) (u : Json) (items : List Json)
    (outer : List Frame) (ts : List Token) :
    (Expecting.after u (.array items :: outer)).run (itemTokens vs ++ ts) =
      (Expecting.after (.array (items.reverse ++ u :: vs)) outer).run ts := by
  induction vs generalizing u items with
  | nil => simp [itemTokens, Expecting.step]
  | cons v vs ih =>
    simp only [itemTokens, List.cons_append, List.append_assoc, run_cons, Expecting.step,
      Option.bind_some]
    rw [h v List.mem_cons_self, ih fun u hu => h u (List.mem_cons_of_mem _ hu)]
    simp

theorem run_memberTokens {ms : List (Option String × Json)} (h : ∀ m ∈ ms, Builds m.2)
    (k : Option String) (u : Json) (members : List (Option String × Json)) (outer : List Frame)
    (ts : List Token) :
    (Expecting.after u (.object members k :: outer)).run (memberTokens ms ++ ts) =
      (Expecting.after (.object (members.reverse ++ (k, u) :: ms)) outer).run ts := by
  induction ms generalizing k u members with
  | nil => simp [memberTokens, Expecting.step]
  | cons m ms ih =>
    obtain ⟨k', v⟩ := m
    simp only [memberTokens, List.cons_append, List.append_assoc, run_cons, Expecting.step,
      Option.bind_some]
    rw [h (k', v) List.mem_cons_self, ih fun m hm => h m (List.mem_cons_of_mem _ hm)]
    simp

/-- No value starts like the end of an array, so the first item is read like any other. -/
theorem run_firstItem (v : Json) (outer : List Frame) (ts : List Token) :
    (Expecting.firstItem outer).run (tokensOf v ++ ts) =
      (Expecting.value (.array [] :: outer)).run (tokensOf v ++ ts) := by
  match v with
  | .null | .bool _ | .natural _ | .number _ | .string _ => rfl
  | .array [] | .array (_ :: _) | .object [] | .object (_ :: _) =>
    simp [tokensOf, Expecting.step, startValue]

/-- **Building.** The reader builds a value from its tokens. -/
theorem builds (v : Json) : Builds v := by
  induction v using induction with
  | null | bool | natural | number | string =>
    intro outer ts
    simp [tokensOf, Expecting.step, startValue]
  | array items ih =>
    intro outer ts
    cases items with
    | nil => simp [tokensOf, Expecting.step, startValue]
    | cons v vs =>
      simp only [tokensOf, List.cons_append, List.append_assoc, run_cons, Expecting.step,
        startValue, Option.bind_some]
      rw [run_firstItem, ih v List.mem_cons_self,
        run_itemTokens fun u hu => ih u (List.mem_cons_of_mem _ hu)]
      rfl
  | object members ih =>
    intro outer ts
    cases members with
    | nil => simp [tokensOf, Expecting.step, startValue]
    | cons m ms =>
      obtain ⟨k, v⟩ := m
      simp only [tokensOf, List.cons_append, List.append_assoc, run_cons, Expecting.step,
        startValue, Option.bind_some]
      rw [ih (k, v) List.mem_cons_self,
        run_memberTokens fun m hm => ih m (List.mem_cons_of_mem _ hm)]
      rfl

theorem ofTokens?_tokensOf (v : Json) : ofTokens? (tokensOf v) = some v := by
  have hbuild := builds v [] []
  rw [List.append_nil] at hbuild
  rw [ofTokens?, hbuild]
  rfl

/-- **Layout.** Every text that spells the tokens of a value reads as the value. -/
theorem ofChars?_of_spells {v : Json} {s : List Char} (h : Spells (tokensOf v) s) :
    ofChars? s = some v := by
  have hseparated := separates v [] nofun .nil
  rw [List.append_nil] at hseparated
  rw [ofChars?, h.tokens? hseparated, Option.bind_some, ofTokens?_tokensOf]

/-! ## Writing -/

/-- A value without numbers that are kept as literals. -/
inductive Plain : Json → Prop where
  | null : Plain .null
  | bool (b : Bool) : Plain (.bool b)
  | natural (n : Nat) : Plain (.natural n)
  | string (s : Option String) : Plain (.string s)
  | array {items : List Json} (h : ∀ v ∈ items, Plain v) : Plain (.array items)
  | object {members : List (Option String × Json)} (h : ∀ m ∈ members, Plain m.2) :
      Plain (.object members)

/-- Items spell their tokens if each does. -/
theorem spells_compactItems {vs : List Json} (h : ∀ v ∈ vs, Spells (tokensOf v) (compactChars v)) :
    Spells (itemTokens vs) (compactItems vs) := by
  induction vs with
  | nil => exact .token .rightBracket .nil
  | cons v vs ih =>
    have hitems := (h v List.mem_cons_self).append (ih fun u hu => h u (List.mem_cons_of_mem _ hu))
    simpa [itemTokens, compactItems] using Spells.token .comma hitems

theorem Spells.member {ts : List Token} {s : List Char} (h : Spells ts s) (k : Option String) :
    Spells (.string k :: .colon :: ts) (stringChars k ++ ':' :: s) :=
  .token (lexeme_stringChars k) (.token .colon h)

theorem spells_compactMembers {ms : List (Option String × Json)}
    (h : ∀ m ∈ ms, Spells (tokensOf m.2) (compactChars m.2)) :
    Spells (memberTokens ms) (compactMembers ms) := by
  induction ms with
  | nil => exact .token .rightBrace .nil
  | cons m ms ih =>
    obtain ⟨k, v⟩ := m
    have hmembers := (h (k, v) List.mem_cons_self).append
      (ih fun m hm => h m (List.mem_cons_of_mem _ hm))
    simpa [memberTokens, compactMembers] using Spells.token .comma (hmembers.member k)

/-- What is written for a value spells its tokens. -/
theorem spells_compactChars {v : Json} (hv : Plain v) : Spells (tokensOf v) (compactChars v) := by
  induction hv with
  | null => exact .token .nullWord .nil
  | bool b =>
    cases b with
    | true => exact .token .trueWord .nil
    | false => exact .token .falseWord .nil
  | natural n => simpa [tokensOf, compactChars] using Spells.token (.natural n) .nil
  | string s => simpa [tokensOf, compactChars] using Spells.token (lexeme_stringChars s) .nil
  | @array items _ ih =>
    cases items with
    | nil => exact .token .leftBracket (.token .rightBracket .nil)
    | cons v vs =>
      have hitems := (ih v List.mem_cons_self).append
        (spells_compactItems fun u hu => ih u (List.mem_cons_of_mem _ hu))
      simpa [tokensOf, compactChars] using Spells.token .leftBracket hitems
  | @object members _ ih =>
    cases members with
    | nil => exact .token .leftBrace (.token .rightBrace .nil)
    | cons m ms =>
      obtain ⟨k, v⟩ := m
      have hmembers := (ih (k, v) List.mem_cons_self).append
        (spells_compactMembers fun m hm => ih m (List.mem_cons_of_mem _ hm))
      simpa [tokensOf, compactChars] using Spells.token .leftBrace (hmembers.member k)

/-- **Round trip.** A value without literals reads back from what is written for it. -/
theorem ofChars?_compactChars {v : Json} (hv : Plain v) : ofChars? (compactChars v) = some v :=
  ofChars?_of_spells (spells_compactChars hv)

/-! ## Writing over several lines -/

theorem Spells.newline {ts : List Token} {s : List Char} (h : Spells ts s) (depth : Nat) :
    Spells ts (newline depth ++ s) := by
  refine h.white ?_
  intro c hc
  rcases List.mem_cons.1 hc with rfl | hc
  · rfl
  · rw [List.eq_of_mem_replicate hc]
    rfl

theorem spells_prettyItems {vs : List Json}
    (h : ∀ v ∈ vs, ∀ depth, Spells (tokensOf v) (prettyChars depth v)) (depth : Nat) :
    Spells (itemTokens vs) (prettyItems depth vs) := by
  induction vs with
  | nil => exact (Spells.token .rightBracket .nil).newline depth
  | cons v vs ih =>
    have hitems := (h v List.mem_cons_self (depth + 1)).append
      (ih fun u hu => h u (List.mem_cons_of_mem _ hu))
    simpa [itemTokens, prettyItems] using Spells.token .comma (hitems.newline (depth + 1))

theorem spells_prettyMembers {ms : List (Option String × Json)}
    (h : ∀ m ∈ ms, ∀ depth, Spells (tokensOf m.2) (prettyChars depth m.2)) (depth : Nat) :
    Spells (memberTokens ms) (prettyMembers depth ms) := by
  induction ms with
  | nil => exact (Spells.token .rightBrace .nil).newline depth
  | cons m ms ih =>
    obtain ⟨k, v⟩ := m
    have hmembers := (h (k, v) List.mem_cons_self (depth + 1)).append
      (ih fun m hm => h m (List.mem_cons_of_mem _ hm))
    have hspace := hmembers.space (c := ' ') rfl
    simpa [memberTokens, prettyMembers] using
      Spells.token .comma ((hspace.member k).newline (depth + 1))

/-- What is written over several lines for a value spells its tokens. -/
theorem spells_prettyChars {v : Json} (hv : Plain v) (depth : Nat) :
    Spells (tokensOf v) (prettyChars depth v) := by
  induction hv generalizing depth with
  | null => exact .token .nullWord .nil
  | bool b =>
    cases b with
    | true => exact .token .trueWord .nil
    | false => exact .token .falseWord .nil
  | natural n => simpa [tokensOf, prettyChars] using Spells.token (.natural n) .nil
  | string s => simpa [tokensOf, prettyChars] using Spells.token (lexeme_stringChars s) .nil
  | @array items _ ih =>
    cases items with
    | nil => exact .token .leftBracket (.token .rightBracket .nil)
    | cons v vs =>
      have hitems := (ih v List.mem_cons_self (depth + 1)).append
        (spells_prettyItems (fun u hu => ih u (List.mem_cons_of_mem _ hu)) depth)
      simpa [tokensOf, prettyChars] using Spells.token .leftBracket (hitems.newline (depth + 1))
  | @object members _ ih =>
    cases members with
    | nil => exact .token .leftBrace (.token .rightBrace .nil)
    | cons m ms =>
      obtain ⟨k, v⟩ := m
      have hmembers := (ih (k, v) List.mem_cons_self (depth + 1)).append
        (spells_prettyMembers (fun m hm => ih m (List.mem_cons_of_mem _ hm)) depth)
      have hspace := hmembers.space (c := ' ') rfl
      simpa [tokensOf, prettyChars] using
        Spells.token .leftBrace ((hspace.member k).newline (depth + 1))

end PartitionedRollout.Json
