/-
# PartitionedRollout.Json.Value -- JSON values

A value keeps what its text said as far as a reader of records can ask about it: the members
of an object stand in the order of the text and may repeat a key, a plain natural number is
kept apart from every other numeral, and a string whose escapes leave half of a surrogate pair
is a string without a text.
-/

namespace PartitionedRollout

/-- A JSON value. -/
inductive Json where
  /-- The literal `null`. -/
  | null
  /-- One of the literals `true` and `false`. -/
  | bool (b : Bool)
  /-- A number written with digits only. -/
  | natural (n : Nat)
  /-- Any other number, as it is written: with a sign, a fraction or an exponent. -/
  | number (literal : String)
  /-- A string; without a text if an escape in it is half of a surrogate pair. -/
  | string (text : Option String)
  /-- An array. -/
  | array (items : List Json)
  /-- An object, with its members in the order of the text. -/
  | object (members : List (Option String × Json))
  deriving BEq, Inhabited, Repr

namespace Json

/-- The string of a text. -/
def text (s : String) : Json :=
  .string (some s)

/-- An object with the given keys and values. -/
def record (members : List (String × Json)) : Json :=
  .object (members.map fun m => (some m.1, m.2))

end Json

end PartitionedRollout
