/-
# PartitionedRollout.Command.Arguments -- the arguments of the command line

The arguments are options of the program, the name of a command, and options of the command;
options of the program may also stand behind the command, where they count before the ones in
front of it. An option takes its value from behind an equals sign or from the next argument,
and a short option also from the rest of its own argument. No option of one level may be given
twice, and an argument that starts with a hyphen is never the value of the option before it.

What is wrong is found from left to right, with one exception: a value in an argument of its own
is looked at when the next option comes or when the level ends. So the options of a command
count first if such a value stands right in front of the command.
-/

import PartitionedRollout.Config.Basic
import PartitionedRollout.Text.Decimal
import PartitionedRollout.Workload.Basic

namespace PartitionedRollout.Command

/-- What is reported of a replica on the command line. -/
structure ReplicaReport where
  /-- The number of the replica. -/
  ordinal : UInt32
  /-- The revision that it runs; without one, that of the stored template. -/
  revision : Option String
  /-- Whether it serves. -/
  ready : Bool
  /-- Where it answers health checks. -/
  address : Option String
  deriving DecidableEq, Repr

/-- A command. -/
inductive Task where
  /-- Write a configuration with every default spelled out. -/
  | init (output store : String)
  /-- Create or replace a workload set from a file. -/
  | apply (file : String)
  /-- Show a workload set. -/
  | status (id : WorkloadId)
  /-- Record what was observed of a replica. -/
  | report (id : WorkloadId) (r : ReplicaReport)
  /-- Roll an image out. -/
  | rollout (id : WorkloadId) (image : String)
  deriving DecidableEq, Repr

/-- Why there is nothing to do. -/
inductive Stop where
  /-- The arguments make no sense. -/
  | usage
  /-- Help was asked for. -/
  | help
  /-- The version was asked for. -/
  | version
  deriving DecidableEq, Repr

/-! ## Options -/

/-- An option. -/
structure OptionSpec where
  /-- The name behind two hyphens. -/
  name : String
  /-- The letter behind one hyphen. -/
  letter : Option Char
  /-- The values that it accepts; an option without this takes no value. -/
  accepts : Option (String → Bool)

/-- Any text. -/
def anyText (_ : String) : Bool :=
  true

/-- A path, which is never empty. -/
def isPath (s : String) : Bool :=
  !s.isEmpty

/-- A truth value. -/
def readTruth? : String → Option Bool
  | "true" => some true
  | "false" => some false
  | _ => none

/-- A number of 32 bits. It may have a sign, as long as it is not negative. -/
def readNumber? (s : String) : Option UInt32 :=
  let value? := fun (ds : List Char) =>
    ((Text.Decimal.value? ds).filter (· < UInt32.size)).map UInt32.ofNat
  match s.toList with
  | '-' :: ds => (value? ds).filter (· == 0)
  | '+' :: ds => value? ds
  | ds => value? ds

/-- The options of the program itself. -/
def commonOptions : List OptionSpec :=
  [⟨"config", some 'c', some isPath⟩, ⟨"log-json", none, none⟩]

/-- The options that name a workload set. -/
def targetOptions : List OptionSpec :=
  [⟨"namespace", some 'n', some anyText⟩, ⟨"name", none, some anyText⟩]

/-- The options of a command, if there is one of that name. -/
def optionsOf? : String → Option (List OptionSpec)
  | "init" => some [⟨"output", some 'o', some isPath⟩, ⟨"store", none, some isPath⟩]
  | "apply" => some [⟨"file", some 'f', some isPath⟩]
  | "status" => some targetOptions
  | "report" => some <| targetOptions ++ [
      ⟨"ordinal", none, some fun s => (readNumber? s).isSome⟩,
      ⟨"revision", none, some anyText⟩,
      ⟨"ready", none, some fun s => (readTruth? s).isSome⟩,
      ⟨"address", none, some anyText⟩]
  | "rollout" => some (targetOptions ++ [⟨"image", none, some anyText⟩])
  | _ => none

/-! ## One level of arguments -/

/-- The options that have been given, with their values. -/
abbrev Given := List (String × String)

/-- Give an option a value. -/
def give (given : Given) (o : OptionSpec) (value : String) : Except Stop Given :=
  if (given.lookup o.name).isSome then .error .usage
  else
    match o.accepts with
    | none => .ok ((o.name, "") :: given)
    | some accepts => if accepts value then .ok ((o.name, value) :: given) else .error .usage

/-- What one argument does: it gives an option, or it names one whose value is to come. -/
inductive Step where
  /-- The options that have been given now. -/
  | given (g : Given)
  /-- The value of the option is to come. -/
  | awaiting (o : OptionSpec)

/-- An argument behind two hyphens. -/
def longStep (options : List OptionSpec) (given : Given) (body : List Char) : Except Stop Step :=
  let name := String.ofList (body.takeWhile (· != '='))
  let value := (body.dropWhile (· != '=')).drop 1
  let bare := !body.contains '='
  match options.find? fun o => o.name == name with
  | none =>
    if bare && name == "help" then .error .help
    else if bare && name == "version" then .error .version
    else .error .usage
  | some o =>
    if o.accepts.isNone then if bare then (give given o "").map .given else .error .usage
    else if bare then .ok (.awaiting o)
    else (give given o (String.ofList value)).map .given

/-- An argument behind one hyphen: a letter, and perhaps a value. -/
def shortStep (options : List OptionSpec) (given : Given) (letter : Char) (rest : List Char) :
    Except Stop Step :=
  match options.find? fun o => o.letter == some letter with
  | none =>
    if letter = 'h' then .error .help
    else if letter = 'V' then .error .version
    else .error .usage
  | some o =>
    match rest with
    | [] => .ok (.awaiting o)
    | '=' :: value => (give given o (String.ofList value)).map .given
    | value => (give given o (String.ofList value)).map .given

/-- An argument is not taken for an option. A lone hyphen is a value. -/
def isValue : List Char → Bool
  | '-' :: _ :: _ => false
  | _ => true

/-- An option that has been named, with its value if that has come. -/
structure Pending where
  /-- The option. -/
  option : OptionSpec
  /-- Its value. -/
  value : Option String

/-- Give the option that is pending its value. -/
def settle (given : Given) : Option Pending → Except Stop Given
  | none => .ok given
  | some ⟨o, some value⟩ => give given o value
  | some ⟨_, none⟩ => .error .usage

/-- What the options of one level come to: the ones that have been given, one that is pending, and
the arguments from the first one on that is no option. -/
structure Level where
  /-- The options that have been given. -/
  given : Given
  /-- The option whose value has not been looked at. -/
  pending : Option Pending
  /-- The arguments that are left. -/
  rest : List String

/-- The options that some arguments give. -/
def readOptions (options : List OptionSpec) : Given → Option Pending → List String →
    Except Stop Level
  | given, pending, [] => .ok ⟨given, pending, []⟩
  | given, pending, arg :: rest =>
    match pending, isValue arg.toList with
    | some ⟨o, none⟩, true => readOptions options given (some ⟨o, some arg⟩) rest
    | pending, true => .ok ⟨given, pending, arg :: rest⟩
    | pending, false =>
      match settle given pending with
      | .error stop => .error stop
      | .ok given =>
        let step : Except Stop Step := match arg.toList with
          | ['-', '-'] => if rest.isEmpty then .ok (.given given) else .error .usage
          | '-' :: '-' :: body => longStep options given body
          | _ :: letter :: more => shortStep options given letter more
          | _ => .error .usage
        match step with
        | .ok (.given given) => readOptions options given none rest
        | .ok (.awaiting o) => readOptions options given (some ⟨o, none⟩) rest
        | .error stop => .error stop

/-! ## The whole line -/

/-- The task that a command and its options stand for. -/
def task? (command : String) (given : Given) : Option Task := do
  let value? := fun name => given.lookup name
  let id? := (value? "name").map fun name =>
    (⟨(value? "namespace").getD "default", name⟩ : WorkloadId)
  match command with
  | "init" =>
    return .init ((value? "output").getD "ordinal.toml")
      ((value? "store").getD Config.defaultStorePath)
  | "apply" => return .apply (← value? "file")
  | "status" => return .status (← id?)
  | "report" =>
    let ordinal ← (value? "ordinal").bind readNumber?
    let ready := ((value? "ready").bind readTruth?).getD true
    return .report (← id?) ⟨ordinal, value? "revision", ready, value? "address"⟩
  | "rollout" => return .rollout (← id?) (← value? "image")
  | _ => none

/-- What the arguments ask for. -/
structure Invocation where
  /-- The path of the configuration. -/
  config : Option String
  /-- The task. -/
  task : Task
  deriving DecidableEq, Repr

/-- Why there is nothing to do, and at which level of the arguments that was found. -/
structure Refusal where
  /-- The reason. -/
  stop : Stop
  /-- The name that a version is shown for: that of the program, or with the command behind it. -/
  subject : String
  deriving DecidableEq, Repr

/-- The name of the program. -/
def programName : String := "ordinald"

/-- Read the arguments of a command. -/
def readCommand (command : String) (options : List OptionSpec) (args : List String) :
    Except Stop (Given × Task) := do
  let level ← readOptions (options ++ commonOptions) [] none args
  if !level.rest.isEmpty then throw .usage
  let given ← settle level.given level.pending
  match task? command given with
  | none => throw .usage
  | some task => return (given, task)

/-- Help can be asked for on the program, on one command, and on help itself. -/
def isHelpTopic : List String → Bool
  | [] => true
  | [topic] => topic == "help" || (optionsOf? topic).isSome
  | _ => false

/-- Read the arguments. -/
def readArguments (args : List String) : Except Refusal Invocation :=
  match readOptions commonOptions [] none args with
  | .error stop => .error ⟨stop, programName⟩
  | .ok ⟨_, _, []⟩ => .error ⟨.usage, programName⟩
  | .ok ⟨outer, pending, command :: rest⟩ =>
    if command == "help" then
      .error ⟨if isHelpTopic rest then .help else .usage, programName⟩
    else
      match optionsOf? command with
      | none => .error ⟨.usage, programName⟩
      | some options =>
        match readCommand command options rest, settle outer pending with
        | .error stop, _ => .error ⟨stop, s!"{programName}-{command}"⟩
        | .ok _, .error stop => .error ⟨stop, programName⟩
        | .ok (inner, task), .ok outer =>
          .ok ⟨(inner.lookup "config").or (outer.lookup "config"), task⟩

end PartitionedRollout.Command
