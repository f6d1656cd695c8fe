/-
# PartitionedRollout.Json.Reader -- reading JSON texts

The reader takes the tokens one by one and keeps the arrays and objects that are still open on
a stack, so that nesting of any depth is read alike. A text is read when its last token
completes a value and nothing is open.
-/

import PartitionedRollout.Json.Token
import PartitionedRollout.Json.Value

namespace PartitionedRollout.Json

/-- An array or object that is still open, with its completed parts latest first. -/
inductive Frame where
  /-- An array with its items so far. -/
  | array (items : List Json)
  /-- An object with its members so far and the key of the value that is being read. -/
  | object (members : List (Option String × Json)) (key : Option String)

/-- What may come next. -/
inductive Expecting where
  /-- A value. -/
  | value (outer : List Frame)
  /-- The first item of an array, or its end. -/
  | firstItem (outer : List Frame)
  /-- The first key of an object, or its end. -/
  | firstKey (outer : List Frame)
  /-- A further key of an object. -/
  | key (members : List (Option String × Json)) (outer : List Frame)
  /-- The colon after a key. -/
  | colon (members : List (Option String × Json)) (key : Option String) (outer : List Frame)
  /-- A separator or an end after a completed value. -/
  | after (v : Json) (outer : List Frame)

/-- A token where a value has to start. -/
def startValue (outer : List Frame) : Token → Option Expecting
  | .leftBrace => some (.firstKey outer)
  | .leftBracket => some (.firstItem outer)
  | .null => some (.after .null outer)
  | .bool b => some (.after (.bool b) outer)
  | .natural n => some (.after (.natural n) outer)
  | .number s => some (.after (.number s) outer)
  | .string s => some (.after (.string s) outer)
  | _ => none

/-- Take one token. -/
def Expecting.step : Expecting → Token → Option Expecting
  | .value outer, t => startValue outer t
  | .firstItem outer, .rightBracket => some (.after (.array []) outer)
  | .firstItem outer, t => startValue (.array [] :: outer) t
  | .firstKey outer, .rightBrace => some (.after (.object []) outer)
  | .firstKey outer, .string k => some (.colon [] k outer)
  | .firstKey _, _ => none
  | .key members outer, .string k => some (.colon members k outer)
  | .key _ _, _ => none
  | .colon members k outer, .colon => some (.value (.object members k :: outer))
  | .colon _ _ _, _ => none
  | .after v (.array items :: outer), .comma => some (.value (.array (v :: items) :: outer))
  | .after v (.array items :: outer), .rightBracket =>
    some (.after (.array (v :: items).reverse) outer)
  | .after v (.object members k :: outer), .comma => some (.key ((k, v) :: members) outer)
  | .after v (.object members k :: outer), .rightBrace =>
    some (.after (.object ((k, v) :: members).reverse) outer)
  | .after _ _, _ => none

/-- Take a list of tokens. -/
def Expecting.run (e : Expecting) (ts : List Token) : Option Expecting :=
  ts.foldlM Expecting.step e

/-- The value of a list of tokens. -/
def ofTokens? (ts : List Token) : Option Json :=
  match (Expecting.value []).run ts with
  | some (.after v []) => some v
  | _ => none

/-- The value of a list of characters. -/
def ofChars? (s : List Char) : Option Json :=
  (tokens? s).bind ofTokens?

/-- Read a JSON text. -/
def read? (s : String) : Option Json :=
  ofChars? s.toList

end PartitionedRollout.Json
