/-
# PartitionedRollout.Main -- the program

The program runs its commands on the files, the clock and the network of the machine. It only
carries requests out; what is asked for, in which order, and what is shown is decided elsewhere.
-/

import PartitionedRollout.Command.FileError
import PartitionedRollout.Command.Host
import PartitionedRollout.Health.Message
import PartitionedRollout.Store.Written
import Std.Async.DNS
import Std.Async.TCP
import Std.Async.Timer

namespace PartitionedRollout.Command.Machine

/-! ## Files -/

/-- A number without its sign. -/
def magnitude (code : UInt32) : Nat :=
  if UInt32.size / 2 ≤ code.toNat then UInt32.size - code.toNat else code.toNat

/-- The number of an error of the operating system, if it has one. Some layers give its
negative. -/
def errorCode? : IO.Error → Option Nat
  | .alreadyExists _ code _ => some (magnitude code)
  | .noFileOrDirectory _ code _ => some (magnitude code)
  | .permissionDenied _ code _ => some (magnitude code)
  | .inappropriateType _ code _ => some (magnitude code)
  | .invalidArgument _ code _ => some (magnitude code)
  | _ => none

/-- The text of an error. -/
def errorText (e : IO.Error) : String :=
  match (errorCode? e).bind FileError.ofCode? with
  | some reason => reason.message
  | none => toString e

/-- The result of an action, or the text of its error. -/
def attempt {α : Type} (action : IO α) : IO (Except String α) := do
  try
    return .ok (← action)
  catch e =>
    return .error (errorText e)

/-- There is a file or directory. The empty path leads nowhere. -/
def pathExists (path : String) : IO Bool := do
  if path.isEmpty then return false
  ((← IO.currentDir) / path).pathExists

/-- There is a directory. -/
def isDirectory (path : String) : IO Bool := do
  if path.isEmpty then return false
  ((← IO.currentDir) / path).isDir

/-- Create a directory, and the ones around it if they are missing. -/
partial def createDirectories (path : String) : IO Unit := do
  if path.isEmpty then return
  try
    IO.FS.createDir path
  catch e =>
    if ← isDirectory path then return
    if errorCode? e ≠ FileError.notFound.code? then throw e
    match parentOf? path with
    | none => throw e
    | some directory =>
      createDirectories directory
      IO.FS.createDir path

/-! ## The store -/

/-- The store in a file. -/
def loadStore (path : String) : IO (Except StoreError Store) := do
  match ← attempt (IO.FS.readFile path) with
  | .error cause => return .error (.read cause)
  | .ok text =>
    match Store.decode? text with
    | some s => return .ok s
    | none => return .error (.read FileError.badData.message)

/-- Open the store in a file, and make one without entries if there is none. -/
def openStore (path : String) : IO (Except String Store) := do
  if ← pathExists path then
    match ← attempt (IO.FS.readFile path) with
    | .error cause => return .error cause
    | .ok text =>
      match Store.decode? text with
      | some s => return .ok s
      | none => return .error FileError.badData.message
  else
    match ← attempt (IO.FS.writeFile path Store.empty.encode) with
    | .error cause => return .error cause
    | .ok () => return .ok .empty

/-- Read a workload set from the store in a file. -/
def get (path : String) (id : WorkloadId) : IO (Except StoreError WorkloadSet) := do
  return (← loadStore path).bind (·.get id)

/-- Replace the specification of a workload set in the store in a file. -/
def update (path : String) (w : WorkloadSet) : IO (Except StoreError WorkloadSet) := do
  match (← loadStore path).bind (·.update w) with
  | .error e => return .error e
  | .ok (stored, s) =>
    match ← attempt (IO.FS.writeFile path s.encode) with
    | .error cause => return .error (.write cause)
    | .ok () => return .ok stored

/-! ## Time -/

/-- The span of a number of nanoseconds of the clock. -/
def spanOf (nanos : Nat) : TimeSpan :=
  (TimeSpan.ofNanos? nanos).getD .zero

/-- Wait. -/
def sleep (d : TimeSpan) : IO Unit :=
  IO.sleep (UInt32.ofNat (min d.ceilMillis (UInt32.size - 1)))

/-- Draw a length of time around an interval. -/
def draw (interval : TimeSpan) (factor : Binary64) : IO (Option TimeSpan) := do
  let part := min 1.0 (max 0.0 (Float.ofBits factor.bits))
  let reach := (interval.nanos.toFloat * part).toUInt64.toNat
  return TimeSpan.ofNanos? (← IO.rand (interval.nanos - reach) (interval.nanos + reach))

/-! ## The network -/

open Std.Async

/-- The most parts in which the first line of an answer may arrive. -/
def maxParts : Nat := 64

/-- The characters of some bytes, one for each. -/
def charsOf (bytes : ByteArray) : List Char :=
  bytes.toList.map fun b => Char.ofNat b.toNat

/-- Receive up to the end of the first line. -/
def receiveLine (socket : TCP.Socket.Client) : (parts : Nat) → List Char → Async (List Char)
  | 0, received => return received
  | parts + 1, received => do
    match ← socket.recv? 4096 with
    | none => return received
    | some bytes =>
      let received := received ++ charsOf bytes
      if received.contains '\n' then return received
      receiveLine socket parts received

/-- The address of a port at some host. -/
def socketAddress (port : UInt16) : Std.Net.IPAddr → Std.Net.SocketAddress
  | .v4 host => .v4 ⟨host, port⟩
  | .v6 host => .v6 ⟨host, port⟩

/-- Send a request and receive the status code of the answer. -/
def exchange (r : HttpRequest) : Async (Option UInt16) := do
  match r.endpoint? with
  | none => return none
  | some (host, port) =>
    match (← DNS.getAddrInfo host (toString port))[0]? with
    | none => return none
    | some address =>
      let socket ← TCP.Socket.Client.mk
      socket.connect (socketAddress port address)
      socket.send r.message.toUTF8
      return statusOfAnswer? (← receiveLine socket maxParts [])

/-- Send a request and wait for the status code of the answer, but not longer than given. -/
def fetch (r : HttpRequest) (timeout : TimeSpan) : IO (Option UInt16) := do
  let answered : Async (Option UInt16) := do
    try exchange r catch _ => return none
  let late : Async (Option UInt16) := do
    Std.Async.sleep (.ofNat timeout.ceilMillis)
    return none
  (Async.race answered late).block

/-! ## Rollouts -/

/-- What is answered to a call of a collaborator that the program does not have. -/
def absent : Failure :=
  .plain "not available"

/-- Answer a request, with the store in the given file. -/
def answer (path : String) (start : Nat) : (r : Request) → IO r.Reply
  | .get id => get path id
  | .update w => update path w
  | .transform _ => return .error absent
  | .verify _ _ => return .error absent
  | .check _ _ => return some (.error absent)
  | .awaitReady => return .error absent
  | .probeHealth _ _ => return .error absent
  | .stopping => return false
  | .sleep d => do
    sleep d
    return false
  | .now => return spanOf ((← IO.monoNanosNow) - start)
  | .draw interval factor => draw interval factor
  | .fetch r timeout => fetch r timeout

/-- The machine as a host. -/
def host : Host IO where
  readText path := attempt (IO.FS.readFile path)
  pathExists path := pathExists path
  writeText path text := attempt (IO.FS.writeFile path text)
  createDirectories path := attempt (createDirectories path)
  openStore path := openStore path
  saveStore path s := attempt (IO.FS.writeFile path s.encode)
  roll path p := do p.interpret (answer path (← IO.monoNanosNow))

end PartitionedRollout.Command.Machine

/-- Run a command and show what it answers. -/
def main (args : List String) : IO UInt32 := do
  let a ← PartitionedRollout.Command.run PartitionedRollout.Command.Machine.host args
  (← IO.getStdout).putStr a.out
  (← IO.getStderr).putStr a.err
  return a.exit
