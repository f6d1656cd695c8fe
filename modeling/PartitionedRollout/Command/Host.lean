/-
# PartitionedRollout.Command.Host -- what the commands do

The commands are written for any host that can read and write files and that can run a rollout
on the store in a file. What is shown and how a command exits is the same on every host.
-/

import PartitionedRollout.Command.Arguments
import PartitionedRollout.Command.Diagnostic
import PartitionedRollout.Command.Path
import PartitionedRollout.Command.Report
import PartitionedRollout.Config.Written
import PartitionedRollout.Health.ClusterProbe
import PartitionedRollout.Health.Readiness
import PartitionedRollout.Rollout.Controller
import PartitionedRollout.Store.Basic

namespace PartitionedRollout.Command

/-- A place where commands can run. What fails there fails with a text. -/
structure Host (m : Type → Type) where
  /-- Read a file. -/
  readText : (path : String) → m (Except String String)
  /-- There is a file or directory. -/
  pathExists : (path : String) → m Bool
  /-- Write a file. -/
  writeText : (path text : String) → m (Except String Unit)
  /-- Create a directory and the ones around it, as far as they are missing. -/
  createDirectories : (path : String) → m (Except String Unit)
  /-- Open the store in a file. Where there is none, one without entries is made. -/
  openStore : (path : String) → m (Except String Store)
  /-- Write a store into a file. -/
  saveStore : (path : String) → Store → m (Except String Unit)
  /-- Run a rollout on the store in a file. -/
  roll : (path : String) → Program Outcome → m (Ending Outcome)

/-- What a command shows and how it exits. -/
structure Answer where
  /-- The exit code. -/
  exit : UInt32
  /-- The standard output. -/
  out : String
  /-- The standard error. -/
  err : String
  deriving DecidableEq, Repr

namespace Answer

/-- A command that went through. -/
def success (out : String) : Answer :=
  ⟨0, out, ""⟩

/-- A command that failed, after it had shown something. -/
def failure (out : String) (f : Failure) : Answer :=
  ⟨1, out, diagnostic f⟩

/-- A command that broke off because a length of time outgrew its range. -/
def broken : Answer :=
  ⟨101, "", "overflow of a length of time\n"⟩

end Answer

variable {m : Type → Type} [Monad m]

/-- What a command does: it ends with an answer, or it fails. -/
abbrev Doing (m : Type → Type) := ExceptT Failure m

/-- The value of a step, or its failure with a text on top. -/
def explain {α : Type} (context : String) (step : m (Except String α)) : Doing m α := do
  match ← (step : m _) with
  | .ok a => return a
  | .error cause => throw ⟨context, [cause]⟩

/-- Why a configuration cannot be loaded. -/
def loadCause : Config.LoadError → String
  | .malformed => "TOML parse error"
  | .invalid e => e.message

/-- The configuration at a path, or the empty one. -/
def loadConfig (h : Host m) : Option String → Doing m Config
  | none => return .empty
  | some path => do
    let context := s!"loading config from {path}"
    let text ← explain context (h.readText path)
    match Config.decode text with
    | .ok c => return c
    | .error e => throw ⟨context, [loadCause e]⟩

/-- The cause of a failed read or write of a store. -/
def storeFileCause (cause : String) : String :=
  s!"I/O error: {cause}"

/-- The store of a configuration. Its directory and its file are created if they are missing. -/
def openStore (h : Host m) (path : String) : Doing m Store := do
  if let some directory := (parentOf? path).filter (!·.isEmpty) then
    explain s!"creating store directory {directory}" (h.createDirectories directory)
  match ← (h.openStore path : m _) with
  | .error cause =>
    throw ⟨s!"opening store at {path}", [(StoreError.open (storeFileCause cause)).message]⟩
  | .ok s => return s

/-- Write the store of a configuration. -/
def saveStore (h : Host m) (path : String) (s : Store) : Doing m Unit := do
  match ← (h.saveStore path s : m _) with
  | .error cause => throw (.plain (StoreError.write (storeFileCause cause)).message)
  | .ok () => return ()

/-! ## The tasks -/

/-- Write a configuration with every default spelled out. -/
def init (h : Host m) (output store : String) : Doing m Answer := do
  if ← (h.pathExists output : m _) then
    throw (.plain s!"{output} already exists")
  match ← (h.writeText output (Config.scaffold store).encode : m _) with
  | .error cause => throw (.plain cause)
  | .ok () => return .success s!"✓ Generated {output}\n"

/-- Create or replace a workload set from a file. -/
def apply (h : Host m) (c : Config) (file : String) : Doing m Answer := do
  let text ← explain s!"reading {file}" (h.readText file)
  match WorkloadSet.decode? text with
  | none => throw ⟨s!"parsing workload set from {file}", ["not a workload set"]⟩
  | some w =>
    let s ← openStore h c.storePath
    match s.put w with
    | .error e => throw (.plain e.message)
    | .ok (stored, s) =>
      saveStore h c.storePath s
      return .success s!"applied {stored.id} (resource version {stored.resourceVersion})\n"

/-- Show a workload set. -/
def status (h : Host m) (c : Config) (id : WorkloadId) : Doing m Answer := do
  let s ← openStore h c.storePath
  match s.find id with
  | .error e => throw (.plain e.message)
  | .ok none => throw (.plain s!"workload set {id} not found")
  | .ok (some w) => return .success (w.toJson.pretty ++ "\n")

/-- Record what was observed of a replica. -/
def report (h : Host m) (c : Config) (id : WorkloadId) (r : ReplicaReport) : Doing m Answer := do
  let s ← openStore h c.storePath
  match s.report id r with
  | .error e => throw (.plain e.message)
  | .ok (_, s) =>
    saveStore h c.storePath s
    return .success ""

/-- More rounds than a loop of a rollout takes. -/
def maxRounds : Nat := UInt64.size

/-- The rollout of an image under a configuration. -/
def rolloutProgram (c : Config) (id : WorkloadId) (image : String) :
    Except ConfigError (Program Outcome) := do
  let updateTimeout ← c.podUpdateTimeout
  let maxPollingInterval ← c.podMaxPollingInterval
  let readiness ← ReadinessSettings.ofConfig c
  let health ← HealthSettings.ofConfig c
  let maxAttempts ← c.retryAttempts
  let interval ← c.retryInterval
  let gates : Gates := {
    timing := ⟨updateTimeout, maxPollingInterval⟩
    awaitReady := awaitReady maxRounds readiness id
    probeHealth := fun checkpoint _ => probeCluster maxRounds health id checkpoint }
  let strategy : Strategy := ⟨.revision, ⟨maxAttempts, interval⟩, true, maxRounds⟩
  return rollOutSuite gates ⟨imageTransform image, strategy⟩ id

/-- Roll an image out. -/
def rollout (h : Host m) (c : Config) (id : WorkloadId) (image : String) : Doing m Answer := do
  let _ ← openStore h c.storePath
  match rolloutProgram c id image with
  | .error e => throw (.plain e.message)
  | .ok program =>
    match ← (h.roll c.storePath program : m _) with
    | .error _ => return .broken
    | .ok outcome =>
      match outcome.result with
      | .ok () =>
        return .success s!"rolled {image} out to {id} (skip_sleep: {outcome.skipSleep})\n"
      | .error e =>
        return .failure s!"rollout of {id} failed (skip_sleep: {outcome.skipSleep})\n"
          ⟨e.message, e.causes⟩

/-- Do a task. The configuration is loaded first, except for the task that does not need one. -/
def perform (h : Host m) (i : Invocation) : Doing m Answer := do
  match i.task with
  | .init output store => init h output store
  | .apply file => apply h (← loadConfig h i.config) file
  | .status id => status h (← loadConfig h i.config) id
  | .report id r => report h (← loadConfig h i.config) id r
  | .rollout id image => rollout h (← loadConfig h i.config) id image

/-- The version of the program. -/
def version : String := "0.1.0"

/-- How the program is called. -/
def usage : String :=
  s!"Usage: {programName} [OPTIONS] <COMMAND>\n"

/-- Run the program with the given arguments. -/
def run (h : Host m) (args : List String) : m Answer := do
  match readArguments args with
  | .error ⟨.usage, _⟩ => return ⟨2, "", usage⟩
  | .error ⟨.help, _⟩ => return .success usage
  | .error ⟨.version, subject⟩ => return .success s!"{subject} {version}\n"
  | .ok i =>
    match ← (perform h i).run with
    | .ok answer => return answer
    | .error f => return .failure "" f

end PartitionedRollout.Command
