import Depot.Build.Server
import Depot.Build.Store
import Depot.CommandLine.Shell
import Depot.Config.File
import Depot.Console.Markup
import Depot.Console.Sequence
import Depot.Spec.Document

/-!
# Sessions

A session is one run of the program: what it finds around it is given by its
`Surroundings`, and what it does is an `Action`, a function from a `State` to a
new one. The state holds the files, what was printed, and the requests that were
sent; an action that stops before its end leaves what was done until then.

Messages go through the markup of `Console.Markup`: one whose tags are not in order
stops the run, and nothing of it is printed. The others are printed on a console, which
may have a width and breaks the lines that are longer (`Console.printed`). Results that
are no messages, and what is said about the use of the program, are printed as they are.
-/

namespace Depot.Command

/-- What a run finds around it. -/
structure Surroundings where
  /-- The folder that relative paths start from. -/
  here : Files.Location
  /-- The variables of the process, in order. -/
  environment : List (Text × Text)
  /-- What the clock shows. -/
  now : Time.WallClock
  /-- The moment in milliseconds. -/
  millis : Int
  /-- The file name suffixes that are drawn one after the other. -/
  suffix : Nat → Text
  /-- What comes back for a request. -/
  reply : Build.Reply
  /-- The complaint of a system that does not let the recorded data be removed. -/
  removalTrouble : Option Text := none
  /-- What such a system has removed before it complains. -/
  removedBefore : Files.Location → Bool := fun _ => false
  /-- The width of the console. There is none if it breaks no line. -/
  columns : Option Console.Width := none

namespace Surroundings

/-- The value of a variable; the last one counts. -/
def value? (s : Surroundings) (name : Text) : Option Text :=
  (s.environment.reverse.find? fun v => v.1 = name).map (·.2)

/-- The value of a variable that is not empty. -/
def nonEmpty? (s : Surroundings) (name : Text) : Option Text := (s.value? name).filter (· ≠ [])

/-- The text of the home folder. -/
def home (s : Surroundings) : Text := (s.value? "HOME").getD []

/-- Where and when builds are recorded. -/
def setting (s : Surroundings) : Build.Setting := ⟨s.here, s.now, s.millis, s.suffix⟩

end Surroundings

/-- A trouble that a run does not expect and ends by. -/
inductive Crash where
  /-- The tags of a message are not in order. -/
  | markup (fault : Console.Fault)
  | config (e : Config.Failure)
  | build (e : Build.Failure)
  | spec (e : Spec.ReadError)
  | file (e : Files.FileError)
  /-- The answer of a server is nested too deep. -/
  | reply (container : Json.Container)
  | moment (e : Time.Timestamp.Fault)
  /-- A shell does not tell which word is being written. -/
  | shell (fault : CommandLine.Shell.Fault)
  /-- A result holds half of a surrogate pair, which no output can show. -/
  | half
  deriving DecidableEq

/-- The trouble in words. -/
def Crash.message : Crash → Text
  | .markup fault => fault.message
  | .config e => e.message
  | .build e => e.message
  | .spec e => e.message []
  | .file e => e.message
  | .reply container => container.tooDeepMessage
  | .moment e => e.message
  | .shell fault => fault.message
  | .half => "A result has half of a surrogate pair"

/-- How a run ends before its end. -/
inductive Stop where
  | exit (code : Nat)
  | crash (c : Crash)
  deriving DecidableEq

/-- What a run works on and leaves behind. -/
structure State where
  disk : Build.Disk
  /-- What was printed as a result. -/
  out : Text := []
  /-- What was printed beside the results. -/
  err : Text := []
  /-- The requests sent, in order. -/
  requests : List Build.Request := []
  /-- Whether the steps of the run are logged beside the results. -/
  logged : Bool := false

/-- A part of a run. -/
abbrev Action := ExceptT Stop (StateM State)

/-- Ends the run. -/
def exit {α : Type} (code : Nat) : Action α := throw (.exit code)

/-- Ends the run by a trouble that it does not expect. -/
def crash {α : Type} (c : Crash) : Action α := throw (.crash c)

/-- The files and what was drawn so far. -/
def getDisk : Action Build.Disk := do return (← get).disk

/-- Changes the files. -/
def setDisk (d : Build.Disk) : Action Unit := modify fun s => { s with disk := d }

/-- Changes the tree of files. -/
def setTree (t : Files.Tree) : Action Unit :=
  modify fun s => { s with disk := { s.disk with tree := t } }

/-! ## Printing -/

/-- Prints a line of a result as it is, which no half of a surrogate pair can be. -/
def printLine (t : Text) : Action Unit :=
  if t.any CodePoint.isHalf then crash .half
  else modify fun s => { s with out := s.out ++ t ++ "\n" }

/-- Prints a line of a result without the control sequences in it. -/
def echo (t : Text) : Action Unit := printLine (Console.withoutSequences t)

/-- A character as it is printed beside the results, where half of a surrogate pair
    is shown by its number. -/
def besideResults (c : CodePoint) : Text :=
  if CodePoint.isHalf c then Text.showNumber (CodePoint.toNat c) else [c]

/-- Prints a text beside the results. -/
def printError (t : Text) : Action Unit :=
  modify fun s => { s with err := s.err ++ t.flatMap besideResults }

/-- Prints a text beside the results without the control sequences in it. -/
def echoBeside (t : Text) : Action Unit := printError (Console.withoutSequences t)

/-- A text in a style. -/
def styled (style t : Text) : Text := '[' :: (style ++ "]" ++ t ++ "[/" ++ style ++ "]")

/-- What is shown of a message. The warnings about one that cannot be shown are printed
    beside the results. -/
def shown (s : Surroundings) (message : Text) : Action Text :=
  match Console.plain s.columns message with
  | .ok t => pure t
  | .error fault => do
    printError (fault.warnings.flatMap (· ++ "\n"))
    crash (.markup fault)

/-- Prints a message as a result. -/
def sayResult (s : Surroundings) (message : Text) : Action Unit := do
  printLine (← shown s message)

/-- Prints a message beside the results. -/
def sayBeside (s : Surroundings) (message : Text) : Action Unit := do
  printError ((← shown s message) ++ "\n")

/-- Tells what the program does. -/
def info (s : Surroundings) (message : Text) : Action Unit := sayResult s (styled "info" message)

/-- Tells that the program has done what it was asked for. -/
def success (s : Surroundings) (message : Text) : Action Unit :=
  sayResult s (styled "success" message)

/-- The message of a warning. -/
def warningText (message : Text) : Text := styled "warning" "Warning:" ++ " " ++ message

/-- Tells what looks wrong. -/
def warning (s : Surroundings) (message : Text) : Action Unit := sayBeside s (warningText message)

/-- The message of an error. -/
def errorText (message : Text) : Text := styled "error" "Error:" ++ " " ++ message

/-- The message of a hint. -/
def hintText (hint : Text) : Text := ' ' :: ' ' :: (styled "info" "Hint:" ++ " " ++ hint)

/-- Tells what went wrong. -/
def error (s : Surroundings) (message : Text) : Action Unit := sayBeside s (errorText message)

/-- Tells what can be done about an error. -/
def hint (s : Surroundings) (t : Text) : Action Unit := sayBeside s (hintText t)

/-! ## Runs -/

/-- What the switches of the program give its commands. -/
structure Context where
  /-- The configuration, unless the command was called alone. -/
  config : Option Config := none
  /-- Whether progress is told. -/
  verbose : Bool := false

/-- Tells the progress, if it is to be told. -/
def progress (s : Surroundings) (c : Context) (message : Text) : Action Unit :=
  if c.verbose then sayBeside s (styled "info" message) else pure ()

/-- Ends the run of a command whose words cannot be used. -/
def refuseUsage {α : Type} (program usage : Text) (e : CommandLine.UsageError) : Action α :=
  match e with
  | .unusablePath path => crash (.file ⟨.nul, Files.Path.parse path, false⟩)
  | e => do
    echoBeside (e.report program usage)
    exit 2

/-- Whether a path leads to a folder. -/
def isFolder (s : Surroundings) (t : Files.Tree) (path : Text) : Bool :=
  path ≠ [] && t.isFolder s.here (Files.Path.parse path)

/-- The configuration of a command that does nothing without one. -/
def needConfig (s : Surroundings) (c : Context) : Action Config :=
  match c.config with
  | some config => pure config
  | none => do
    error s "Configuration not loaded"
    exit 1

end Depot.Command

namespace Depot

open Command

/-- A command of the program. -/
structure Command where
  name : Text
  shape : CommandLine.Shape
  /-- What it does with the words that it is given. -/
  body : Surroundings → Context → CommandLine.Given → Action Unit

/-- Runs a command on words, called by `program`. -/
def Command.call (c : Command) (program : Text) (s : Surroundings) (context : Context)
    (words : List Text) : Action Unit := do
  let disk ← getDisk
  match c.shape.read (isFolder s disk.tree) words with
  | .error e => refuseUsage program (CommandLine.usageLine program c.shape false) e
  | .ok given =>
    if given.has CommandLine.helpSwitch.key then echo (CommandLine.page program c.shape [])
    else c.body s context given

end Depot

namespace Depot.Command

/-- What became of a run. -/
structure Outcome where
  code : Nat
  crash : Option Crash
  state : State

/-- Runs an action on files and tells what became of it. -/
def finish (action : Action Unit) (disk : Build.Disk) : Outcome :=
  match action.run { disk := disk } with
  | (.ok _, s) => ⟨0, none, s⟩
  | (.error (.exit code), s) => ⟨code, none, s⟩
  | (.error (.crash c), s) => ⟨1, some c, s⟩

end Depot.Command
