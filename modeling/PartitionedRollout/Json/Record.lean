/-
# PartitionedRollout.Json.Record -- reading records out of JSON values

A record with named fields is read from an object or from an array. In an object the members
may stand in any order, a member with an unknown name is passed over whatever it holds, and no
field may be given twice. In an array the values stand in the order of the fields; fields at
the end may be missing only if they have a default. Whether values beyond the last field are
allowed is up to the format.
-/

import PartitionedRollout.Json.Value
import PartitionedRollout.TextMap

namespace PartitionedRollout.Json

/-! ## Single values -/

/-- A string that has a text. -/
def string? : Json → Option String
  | .string s => s
  | _ => none

/-- A natural number of 32 bits. -/
def uint32? : Json → Option UInt32
  | .natural n => if n < UInt32.size then some (UInt32.ofNat n) else none
  | _ => none

/-- A natural number of 64 bits. -/
def uint64? : Json → Option UInt64
  | .natural n => if n < UInt64.size then some (UInt64.ofNat n) else none
  | _ => none

/-- A truth value. -/
def bool? : Json → Option Bool
  | .bool b => some b
  | _ => none

/-- An array of values of one kind. -/
def list? {α : Type} (item? : Json → Option α) : Json → Option (List α)
  | .array items => items.mapM item?
  | _ => none

/-- A member whose key and value are both texts. -/
def textMember? : Option String × Json → Option (String × String)
  | (some k, .string (some v)) => some (k, v)
  | _ => none

/-- An object that maps texts to texts; of two members with one key the later one counts. -/
def textMap? : Json → Option (TextMap String)
  | .object members => (members.mapM textMember?).map TextMap.ofList
  | _ => none

/-! ## Records -/

/-- The fields of a record that are there. -/
structure Fields where
  /-- The record was an array. -/
  positional : Bool
  /-- The names and values of the fields that are there. -/
  present : List (String × Json)

/-- The members with one of the given names; none of them may occur twice, and every key has to have
a text. -/
def known? (names : List String) : List (Option String × Json) → Option (List (String × Json))
  | [] => some []
  | (none, _) :: _ => none
  | (some k, v) :: rest =>
    match known? names rest with
    | none => none
    | some found =>
      if k ∈ names then
        if found.any fun f => f.1 == k then none else some ((k, v) :: found)
      else some found

/-- The fields of a record; `surplus` allows values beyond the last field of an array. -/
def fields? (names : List String) (surplus : Bool) : Json → Option Fields
  | .array items =>
    if surplus || items.length ≤ names.length then some ⟨true, names.zip items⟩ else none
  | .object members => (known? names members).map fun found => ⟨false, found⟩
  | _ => none

namespace Fields

variable {α : Type}

/-- The value of a field, if it is there. -/
def value? (r : Fields) (name : String) : Option Json :=
  TextMap.lookup name r.present

/-- A field that has to be there. -/
def required (r : Fields) (name : String) (read : Json → Option α) : Option α :=
  (r.value? name).bind read

/-- A field that stands for a default when it is not there. -/
def defaulted (r : Fields) (name : String) (default : α) (read : Json → Option α) : Option α :=
  match r.value? name with
  | none => some default
  | some v => read v

/-- A field that may be `null`. Where it is not there it is absent in an object and missing in an
array. -/
def optional (r : Fields) (name : String) (read : Json → Option α) : Option (Option α) :=
  match r.value? name with
  | none => if r.positional then none else some none
  | some .null => some none
  | some v => (read v).map some

/-- A field that may be `null` and may be left out anywhere. -/
def omittable (r : Fields) (name : String) (read : Json → Option α) : Option (Option α) :=
  match r.value? name with
  | none => some none
  | some .null => some none
  | some v => (read v).map some

end Fields

end PartitionedRollout.Json
