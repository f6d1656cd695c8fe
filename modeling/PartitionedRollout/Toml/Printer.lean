/-
# PartitionedRollout.Toml.Printer -- writing TOML texts of settings

A text of settings is a list of sections, each a header and one line per setting. An empty
line stands between two sections.
-/

import PartitionedRollout.Text.Decimal
import PartitionedRollout.Toml.Quoting

namespace PartitionedRollout.Toml

/-- The value of a setting. -/
inductive Setting where
  /-- A text. -/
  | text (s : String)
  /-- A natural number. -/
  | natural (n : Nat)
  deriving DecidableEq, Repr

/-- A section of settings. -/
structure Section where
  /-- The name of the section, in characters that need no quotes. -/
  name : String
  /-- The settings and their names, which need no quotes either. -/
  settings : List (String × Setting)
  deriving DecidableEq, Repr

/-- The value of a setting as it is written. -/
def Setting.chars : Setting → List Char
  | .text s => stringChars s.toList
  | .natural n => Text.Decimal.digits n

/-- The line of a setting. -/
def settingChars (name : String) (value : Setting) : List Char :=
  name.toList ++ ' ' :: '=' :: ' ' :: value.chars ++ ['\n']

/-- The lines of a section. -/
def Section.chars (s : Section) : List Char :=
  '[' :: s.name.toList ++ ']' :: '\n' :: s.settings.flatMap fun e => settingChars e.1 e.2

/-- The lines of all sections. -/
def sectionsChars : List Section → List Char
  | [] => []
  | [s] => s.chars
  | s :: rest => s.chars ++ '\n' :: sectionsChars rest

end PartitionedRollout.Toml
