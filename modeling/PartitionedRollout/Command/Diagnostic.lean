/-
# PartitionedRollout.Command.Diagnostic -- failures on the terminal

A failed command shows what failed and, if there are causes, lists them below: a single one
indented, and several ones numbered from zero. Further lines of a text are indented like its
first one.
-/

import PartitionedRollout.Rollout.Failure

namespace PartitionedRollout.Command

/-- A text with every line break followed by an indentation. -/
def indentLines (indentation : List Char) (s : List Char) : List Char :=
  s.flatMap fun c => if c = '\n' then '\n' :: indentation else [c]

/-- A single cause. -/
def loneCause (cause : String) : String :=
  let indentation := List.replicate 4 ' '
  String.ofList (indentation ++ indentLines indentation cause.toList)

/-- A cause with its number, which stands at the right of five columns. -/
def numberedCause (n : Nat) (cause : String) : String :=
  let number := Nat.toDigits 10 n
  let front := List.replicate (5 - number.length) ' ' ++ number ++ [':', ' ']
  String.ofList (front ++ indentLines (List.replicate 7 ' ') cause.toList)

/-- The lines of the causes. -/
def causeLines : List String → List String
  | [] => []
  | [cause] => ["", "Caused by:", loneCause cause]
  | causes => "" :: "Caused by:" :: causes.mapIdx numberedCause

/-- What a failed command shows. -/
def diagnostic (f : Failure) : String :=
  String.intercalate "\n" (s!"Error: {f.message}" :: causeLines f.causes) ++ "\n"

end PartitionedRollout.Command
