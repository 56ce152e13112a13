import TypedSum.Demo
import TypedSum.Diagnostic.Manual

/-! The command line: which command the arguments name, and what a command writes and returns when
standard output takes everything or nothing.  Arguments are bytes; the program breaks off where one of
them is no text. -/

namespace TypedSum.CommandLine

inductive Command where
  | help
  | demo
  | explain (code : Option String)
  | version
  | unknown (name : String)
  deriving DecidableEq

/-- The command that the arguments behind the program's name stand for; arguments that a command
does not take are passed over. -/
def Command.ofArgs : List String → Command
  | [] => .help
  | name :: rest =>
    if name = "demo" then .demo
    else if name = "explain" then .explain rest.head?
    else if name ∈ ["help", "--help", "-h"] then .help
    else if name ∈ ["version", "--version", "-V"] then .version
    else .unknown name

/-- Where standard output goes. -/
inductive Device where
  | writable
  | full
  deriving DecidableEq

def Device.room : Device → Option Nat
  | .writable => none
  | .full => some 0

structure Outcome where
  exit : Nat
  stdout : List UInt8
  stderr : String
  deriving DecidableEq

def version : String := "tyex 0.1.0-alpha.1"

def usage : List String := [
  "tyex - typed expression trees",
  "",
  "Usage: tyex <command> [args]",
  "",
  "Commands:",
  "  demo            Build, type-check and evaluate sample expressions",
  "  explain <CODE>  Show documentation for an error code (e.g. E2001)",
  "  help            Show this message",
  "  version         Show version information",
  "",
  "Environment:",
  "  RUST_LOG        Log filter, e.g. RUST_LOG=tyex_expr=trace",
  "  TYEX_LOG_TREE   Show logs as an indented span tree"]

/-- Why nothing can be written to a full device. -/
def noSpace : String := "No space left on device (os error 28)"

/-- The end of a program that breaks off, with what it has written so far. -/
def breakOff (message : String) (written : List UInt8) : Outcome := ⟨101, written, message ++ "\n"⟩

/-- Writing to a device that takes nothing ends the program at once. -/
def print (device : Device) (lines : List String) : Outcome :=
  match (lines.forM Output.writeLine).runWith device.room with
  | (written, true) => ⟨0, written, ""⟩
  | (written, false) => breakOff ("failed printing to stdout: " ++ noSpace) written

/-- A command that cannot be carried out. -/
def refuse (message : String) : Outcome := ⟨1, [], message ++ "\n"⟩

def Command.run (device : Device) : Command → Outcome
  | .help => print device usage
  | .version => print device [CommandLine.version]
  | .demo =>
    match Demo.run.runWith device.room with
    | (written, true) => ⟨0, written, ""⟩
    | (written, false) => ⟨1, written, "error: failed to write output: " ++ noSpace ++ "\n"⟩
  | .explain none => refuse "Usage: tyex explain <CODE>"
  | .explain (some code) =>
    match Manual.explain code with
    | .ok page => print device [page]
    | .error e => refuse e.message
  | .unknown name =>
    refuse ("Unknown command: " ++ name ++ "\n\nRun 'tyex help' for usage information.")

/-- A run with arguments that are texts. -/
def run (args : List String) (device : Device) : Outcome := (Command.ofArgs args).run device

/-- An argument as it is handed over. -/
abbrev Argument : Type := List UInt8

/-- The texts of arguments, or the first argument that is none. -/
def texts : List Argument → Except Argument (List String)
  | [] => .ok []
  | argument :: rest =>
    match Text.decode? argument with
    | some text => (texts rest).map (text :: ·)
    | none => .error argument

/-- A run with any arguments.  They are all read before the first is looked at. -/
def runArguments (args : List Argument) (device : Device) : Outcome :=
  match texts args with
  | .ok args => run args device
  | .error argument =>
    breakOff ("called `Result::unwrap()` on an `Err` value: " ++ Text.quotedBytes argument) []

/-- Whether logs are shown, and whether as a tree of their spans. -/
structure Logging where
  enabled : Bool
  tree : Bool
  deriving DecidableEq

namespace Logging

/-- A variable of the process counts when it is set, whatever it is set to. -/
def ofVariables (lookup : String → Option String) : Logging :=
  ⟨(lookup "RUST_LOG").isSome, (lookup "TYEX_LOG_TREE").isSome⟩

inductive Layout where
  | lines
  | tree
  deriving DecidableEq

/-- How logs are laid out, if they are shown at all. -/
def layout? (l : Logging) : Option Layout :=
  if l.enabled then some (if l.tree then .tree else .lines) else none

end Logging

/-- A run in a process with variables.  The text of the logs, which is `logs`, comes on the error stream
before what a command writes there, since that is the last thing a command does. -/
def runLogged (logs : Logging.Layout → List Argument → Device → String)
    (lookup : String → Option String) (args : List Argument) (device : Device) : Outcome :=
  let outcome := runArguments args device
  match (Logging.ofVariables lookup).layout? with
  | none => outcome
  | some layout => { outcome with stderr := logs layout args device ++ outcome.stderr }

end TypedSum.CommandLine
