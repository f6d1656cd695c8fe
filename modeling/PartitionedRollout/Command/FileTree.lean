/-
# PartitionedRollout.Command.FileTree -- a host in memory

A file tree holds texts, stores and directories under the names that lead to them from the
root. Commands can run in it: files are read and written there, and a rollout runs in a
simulated cluster in which nothing happens by itself and no network can be reached. At the start
there are the usual directories of a system, the empty device, and an empty working directory
two directories below the root.

A path is walked as operating systems do: every step but the last has to lead to a directory,
and what the last step stands for is looked up by the operation itself. So a file that is
created may not have a slash behind its name, even if the file is there already.
-/

import PartitionedRollout.Command.FileError
import PartitionedRollout.Command.Host
import PartitionedRollout.Rehearsal.Reply

namespace PartitionedRollout.Command

/-- What a path leads to. -/
inductive Node where
  /-- A directory. -/
  | directory
  /-- A file with a text. -/
  | text (s : String)
  /-- A file with a store. -/
  | store (s : Store)

/-- Files and directories. -/
structure FileTree where
  /-- What is there, by the names that lead to it from the root, with slashes between them. -/
  nodes : TextMap Node

/-- Where a path leads, up to the look at its last name. -/
inductive Place where
  /-- A directory that the path leads to without a name at its end. -/
  | directory (names : List String)
  /-- A name in a directory, perhaps with a slash behind it. -/
  | within (names : List String) (name : String) (slashed : Bool)
  deriving DecidableEq, Repr

namespace FileTree

/-! ## Walking -/

/-- The names that lead from the root to the working directory. -/
def home : List String :=
  ["tmp", "home"]

/-- The key of a list of names. -/
def key (names : List String) : String :=
  String.intercalate "/" names

/-- The directories of a system. -/
def systemDirectories : List String :=
  ["bin", "dev", "etc", "home", "lib", "mnt", "opt", "proc", "root", "run", "sbin", "srv", "sys",
    "tmp", "usr", "usr/bin", "usr/lib", "usr/local", "usr/share", "var", "var/lib", "var/log",
    "var/tmp"]

/-- The file that is always empty. -/
def emptyDevice : String :=
  "dev/null"

/-- A tree with nothing in the working directory. -/
def empty : FileTree :=
  ⟨TextMap.ofList <|
    (emptyDevice, .text "") :: (key home :: systemDirectories).map fun d => (d, .directory)⟩

/-- Put something where a list of names leads to. -/
def put (t : FileTree) (names : List String) (n : Node) : FileTree :=
  ⟨t.nodes.insert (key names) n⟩

/-- What has a name in a directory. -/
def lookUp (t : FileTree) (names : List String) (name : String) : Except FileError Node :=
  if maxNameSize < name.utf8ByteSize then .error .nameTooLong
  else
    match t.nodes.get? (key (names ++ [name])) with
    | some n => .ok n
    | none => .error .notFound

/-- Where some steps lead from a directory. -/
def walk (t : FileTree) (slashed : Bool) : (here : List String) → List PathStep →
    Except FileError Place
  | here, [] => .ok (.directory here)
  | here, .stay :: steps => t.walk slashed here steps
  | here, .up :: steps => t.walk slashed here.dropLast steps
  | here, [.into name] => .ok (.within here name slashed)
  | here, .into name :: steps =>
    match t.lookUp here name with
    | .ok .directory => t.walk slashed (here ++ [name]) steps
    | .ok _ => .error .notDirectory
    | .error e => .error e

/-- Where a path leads. The empty path leads nowhere. -/
def locate (t : FileTree) (path : String) : Except FileError Place :=
  if path.toList.contains '\x00' then .error .nullInPath
  else if path.isEmpty then .error .notFound
  else if maxPathSize < path.utf8ByteSize then .error .nameTooLong
  else
    let way := Way.ofPath path
    t.walk way.slashed (if way.fromRoot then [] else home) way.steps

/-! ## Reading -/

/-- What a path leads to. Only a directory may have a slash behind its name. -/
def at? (t : FileTree) (path : String) : Except FileError Node := do
  match ← t.locate path with
  | .directory _ => return .directory
  | .within names name slashed =>
    match ← t.lookUp names name with
    | .directory => return .directory
    | n => if slashed then throw .notDirectory else return n

/-- A path leads to a directory. -/
def isDirectory (t : FileTree) (path : String) : Bool :=
  match t.at? path with
  | .ok .directory => true
  | _ => false

/-- Read a file with a text. -/
def read (t : FileTree) (path : String) : Except FileError String := do
  match ← t.at? path with
  | .directory => throw .isDirectory
  | .text s => return s
  | .store _ => throw .notText

/-! ## Writing -/

/-- What is in the file at a path, or nothing if the file can be created, and the names that lead to
it. -/
def target (t : FileTree) (path : String) : Except FileError (Option Node × List String) := do
  match ← t.locate path with
  | .directory _ => throw .isDirectory
  | .within names name slashed =>
    if slashed then throw .isDirectory
    match t.lookUp names name with
    | .ok .directory => throw .isDirectory
    | .ok n => return (some n, names ++ [name])
    | .error .notFound => return (none, names ++ [name])
    | .error e => throw e

/-- Write a file with a text. Its directory has to be there. -/
def write (t : FileTree) (path text : String) : Except FileError FileTree := do
  let (_, names) ← t.target path
  return t.put names (.text text)

/-- Open the store in a file. Where there is no file, or an empty one, a store without entries is
made. -/
def openStore (t : FileTree) (path : String) : Except FileError (Store × FileTree) := do
  match ← t.target path with
  | (some (.store s), _) => return (s, t)
  | (some (.text s), names) =>
    if s.isEmpty then return (.empty, t.put names (.store .empty)) else throw .badData
  | (_, names) => return (.empty, t.put names (.store .empty))

/-- Write a store into a file. -/
def saveStore (t : FileTree) (path : String) (s : Store) : Except FileError FileTree := do
  let (_, names) ← t.target path
  return t.put names (.store s)

/-- Create a directory in a directory that is there. -/
def createDirectory (t : FileTree) (path : String) : Except FileError FileTree := do
  match ← t.locate path with
  | .directory _ => throw .exists
  | .within names name _ =>
    match t.lookUp names name with
    | .ok _ => throw .exists
    | .error .notFound => return t.put (names ++ [name]) .directory
    | .error e => throw e

/-- Create the first of some paths, each in the next one, that can be created or is a directory. The
ones in front of it are missing; they are answered with the outermost first. -/
def createOutermost (t : FileTree) : (paths missing : List String) →
    Except FileError (List String × FileTree)
  | [], missing => .ok (missing, t)
  | path :: paths, missing =>
    match t.createDirectory path with
    | .ok t => .ok (missing, t)
    | .error .notFound => t.createOutermost paths (path :: missing)
    | .error .exists => if t.isDirectory path then .ok (missing, t) else .error .exists
    | .error e => .error e

/-- Create the directories at some paths, one after the other, and stop at the first failure. -/
def createEach (t : FileTree) : List String → Except FileError Unit × FileTree
  | [] => (.ok (), t)
  | path :: paths =>
    match t.createDirectory path with
    | .ok t => t.createEach paths
    | .error e =>
      if e = .exists && t.isDirectory path then t.createEach paths else (.error e, t)

/-- Create a directory and the ones around it, as far as they are missing. What has been created
before a failure stays. -/
def createDirectories (t : FileTree) (path : String) : Except FileError Unit × FileTree :=
  match t.createOutermost (ancestors path) [] with
  | .ok (missing, t) => t.createEach missing
  | .error e => (.error e, t)

/-! ## The host -/

/-- The answer of a file operation. -/
def told {α : Type} : Except FileError α → Except String α
  | .ok a => .ok a
  | .error e => .error e.message

/-- The answer of a file operation that changes the tree, and the tree after it. -/
def changed (t : FileTree) : Except FileError FileTree → Except String Unit × FileTree
  | .ok t' => (.ok (), t')
  | .error e => (.error e.message, t)

/-- A cluster around the store in a file. -/
def clusterAt (t : FileTree) (path : String) : Cluster :=
  let store := match t.at? path with
    | .ok (.store s) => s
    | _ => .empty
  .ofStore store ⟨"", ""⟩

/-- The tree as a host. -/
def host : Host (StateM FileTree) where
  readText path := fun t => (told (t.read path), t)
  pathExists path := fun t => ((t.at? path).isOk, t)
  writeText path text := fun t => t.changed (t.write path text)
  createDirectories path := fun t =>
    let (answer, t) := t.createDirectories path
    (told answer, t)
  openStore path := fun t =>
    match t.openStore path with
    | .ok (s, t) => (.ok s, t)
    | .error e => (.error e.message, t)
  saveStore path s := fun t => t.changed (t.saveStore path s)
  roll path p := fun t =>
    let (ending, c) := (t.clusterAt path).rehearse p
    (ending, (t.changed (t.saveStore path c.store)).2)

end FileTree

end PartitionedRollout.Command
