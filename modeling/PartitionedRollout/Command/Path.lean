/-
# PartitionedRollout.Command.Path -- paths of files

A path is read in two ways. As a text it lies in the directory that is left when its last name
is cut off; slashes at the end, doubled slashes and names that are a single dot add nothing
then, except that the directory of a path may be a lone dot. As a way it is walked name by
name from the root or from the working directory: one dot stays, two dots go up, and whether
the way ends in a slash matters to some operations.
-/

namespace PartitionedRollout.Command

/-! ## Paths as texts -/

/-- A reversed path without the slashes and dots at its end that add nothing. -/
def trimBack : List Char → List Char
  | ['/'] => ['/']
  | '/' :: rest => trimBack rest
  | '.' :: '/' :: rest => trimBack ('/' :: rest)
  | rest => rest

/-- The path of the directory that a path lies in. It is empty for a lone name, and there is none
for the root and for the empty path. -/
def parentOf? (path : String) : Option String :=
  match trimBack path.toList.reverse with
  | [] => none
  | ['/'] => none
  | name => some (String.ofList (trimBack (name.dropWhile (· != '/'))).reverse)

/-- A path and the directories around it, innermost first, but not the empty path. At most `limit`
of them are listed. -/
def ancestorsWithin : (limit : Nat) → String → List String
  | 0, _ => []
  | limit + 1, path =>
    if path.isEmpty then []
    else
      match parentOf? path with
      | none => [path]
      | some parent => path :: ancestorsWithin limit parent

/-- A path and the directories around it, innermost first, but not the empty path. Each one is
shorter than the one before. -/
def ancestors (path : String) : List String :=
  ancestorsWithin (path.length + 1) path

/-! ## Paths as ways -/

/-- A step on the way along a path. -/
inductive PathStep where
  /-- Stay where one is. -/
  | stay
  /-- Go to the directory around. -/
  | up
  /-- Go to what has a name. -/
  | into (name : String)
  deriving DecidableEq, Repr

/-- The step that a name between slashes stands for. -/
def PathStep.ofName (name : List Char) : PathStep :=
  if name = ['.'] then .stay
  else if name = ['.', '.'] then .up
  else .into (String.ofList name)

/-- The way along a path. -/
structure Way where
  /-- The way starts at the root, not in the working directory. -/
  fromRoot : Bool
  /-- The steps. -/
  steps : List PathStep
  /-- The way ends in a slash. -/
  slashed : Bool
  deriving DecidableEq, Repr

/-- Split a text at slashes. -/
def splitSlashes : List Char → List (List Char)
  | [] => [[]]
  | '/' :: rest => [] :: splitSlashes rest
  | c :: rest =>
    match splitSlashes rest with
    | [] => [[c]]
    | name :: names => (c :: name) :: names

/-- The way along a path. -/
def Way.ofPath (path : String) : Way :=
  let cs := path.toList
  let names := (splitSlashes cs).filter (· != [])
  ⟨cs.head? == some '/', names.map PathStep.ofName, cs.getLast? == some '/'⟩

/-- The longest name in bytes. -/
def maxNameSize : Nat := 255

/-- The longest path in bytes. -/
def maxPathSize : Nat := 4095

end PartitionedRollout.Command
