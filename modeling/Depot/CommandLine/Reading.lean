import Depot.CommandLine.Page
import Depot.Text.Similar

/-!
# Reading the words of a command

The words of a command are read from left to right. A word of two dashes ends
the switches; any other word that starts with a dash is a switch or several of
them: `--name`, `--name=value`, `-n`, `-nvalue`, and `-abc` for three switches
that take no value. A switch that takes a value and has none in its own word
takes the next word, whatever it looks like. All other words are for the
parameters.

What is wrong with the words is told in the order in which it is found: first
what cannot be read at all, then values that do not fit, then parameters that
are missing, then words that are left. A switch that asks for a page of its own
comes before everything but the first. For a name that is not known the names
that look like it are proposed.
-/

namespace Depot.CommandLine

/-! ## What can be wrong -/

/-- What is wrong with the words of a command. -/
inductive UsageError where
  /-- There is no switch of a name, but some whose names look like it. -/
  | noSuchSwitch (name : Text) (similar : List Text)
  /-- A switch at the end of the words takes a value. -/
  | valueMissing (name : Text)
  /-- A switch that takes no value is given one. -/
  | valueUnwanted (name : Text)
  /-- A value is none of the words that a switch takes. -/
  | notOneOf (switch : Switch) (value : Text) (words : List Text)
  /-- A folder stands where a file should be. -/
  | folder (switch : Switch) (value : Text)
  /-- A path holds a NUL, so that the system cannot be asked about it. -/
  | unusablePath (value : Text)
  | missing (parameter : Text)
  | extra (words : List Text)
  /-- There is no command of a name, but some whose names look like it. -/
  | noSuchCommand (name : Text) (similar : List Text)
  | noCommand
  deriving DecidableEq

/-- Names of a switch between quotes. -/
def Switch.quotedNames (s : Switch) : Text :=
  Text.joined " / " ((s.names ++ s.offNames).map Text.quoted)

/-- The proposal of names in place of one that is not known. -/
def proposal : List Text → Text
  | [] => []
  | [name] => " Did you mean " ++ Text.quoted name ++ "?"
  | names => " (Did you mean one of: " ++ Text.joined ", " (names.map Text.quoted) ++ "?)"

/-- What is wrong, in words. -/
def UsageError.message : UsageError → Text
  | .noSuchSwitch name similar =>
    "No such option " ++ Text.quoted name ++ "." ++ proposal similar
  | .valueMissing name => "Option " ++ Text.quoted name ++ " requires an argument."
  | .valueUnwanted name => "Option " ++ Text.quoted name ++ " does not take a value."
  | .notOneOf switch value words =>
    "Invalid value for " ++ switch.quotedNames ++ ": " ++ Text.quoted value ++
      " is not one of " ++ Text.joined ", " (words.map Text.quoted) ++ "."
  | .folder switch value =>
    "Invalid value for " ++ switch.quotedNames ++ ": File " ++ Text.quoted value ++
      " is a directory."
  | .unusablePath value => "Path " ++ Text.quoted value ++ " holds a NUL."
  | .missing parameter => "Missing argument " ++ Text.quoted parameter ++ "."
  | .extra [w] => "Got unexpected extra argument (" ++ w ++ ")"
  | .extra ws => "Got unexpected extra arguments (" ++ Text.joined " " ws ++ ")"
  | .noSuchCommand name similar =>
    "No such command " ++ Text.quoted name ++ "." ++ proposal similar
  | .noCommand => "Missing command."

/-- Whether the call of the command is shown with the message. -/
def UsageError.showsCall : UsageError → Bool
  | .valueMissing _ | .valueUnwanted _ => false
  | _ => true

/-- What is shown for words that cannot be used. -/
def UsageError.report (program usage : Text) (e : UsageError) : Text :=
  let call : Text :=
    if e.showsCall then
      usage ++ "\nTry '" ++ program ++ " --help' for help.\n\n"
    else []
  call ++ "Error: " ++ e.message ++ "\n"

/-! ## Switches -/

/-- The value of a switch. -/
inductive Value where
  | on
  | off
  | text (t : Text)
  deriving DecidableEq

/-- A switch as it was given. -/
structure Occurrence where
  key : Text
  value : Value
  deriving DecidableEq

/-- What a word stands for. -/
inductive Word where
  /-- Something for a parameter. -/
  | plain
  /-- Switches with their values. -/
  | complete (given : List Occurrence)
  /-- Switches, the last of which takes the next word as its value. -/
  | incomplete (given : List Occurrence) (key name : Text)

/-- The switch with a name, and whether the name takes it back. -/
def find? (switches : List Switch) (name : Text) : Option (Switch × Bool) :=
  match switches.find? fun s => s.names.contains name with
  | some s => some (s, true)
  | none => (switches.find? fun s => s.offNames.contains name).map fun s => (s, false)

/-- The names of switches that are words. -/
def longNames (switches : List Switch) : List Text :=
  (switches.flatMap fun s => s.names ++ s.offNames).filter (Text.ofString "--").isPrefixOf

/-- Whether a name is a dash with one letter. -/
def isShort (name : Text) : Bool := name.length = 2

/-- What a long name stands for, with the value after its equals sign. -/
def readLong (s : Switch) (on : Bool) (name : Text) (value : Option Text) :
    Except UsageError Word :=
  if s.takesValue then
    match value with
    | some v => .ok (.complete [⟨s.key, .text v⟩])
    | none => .ok (.incomplete [] s.key name)
  else
    match value with
    | some _ => .error (.valueUnwanted name)
    | none => .ok (.complete [⟨s.key, if on then .on else .off⟩])

/-- What the letters after a dash stand for. -/
def readLetters (switches : List Switch) : Text → Except UsageError Word
  | [] => .ok (.complete [])
  | c :: cs =>
    match find? switches ['-', c] with
    | none => .error (.noSuchSwitch ['-', c] [])
    | some (s, on) =>
      if s.takesValue then
        if cs = [] then .ok (.incomplete [] s.key ['-', c])
        else .ok (.complete [⟨s.key, .text cs⟩])
      else
        let first : Occurrence := ⟨s.key, if on then .on else .off⟩
        match readLetters switches cs with
        | .ok (.complete given) => .ok (.complete (first :: given))
        | .ok (.incomplete given key name) => .ok (.incomplete (first :: given) key name)
        | other => other

/-- What a word stands for. -/
def readWord (switches : List Switch) (w : Text) : Except UsageError Word :=
  match w with
  | '-' :: c :: cs =>
    let (name, value) : Text × Option Text :=
      match Text.cut '=' w with
      | some (name, value) => (name, some value)
      | none => (w, none)
    let long := if isShort name then none else find? switches name
    match long with
    | some (s, on) => readLong s on name value
    | none =>
      if c = '-' then .error (.noSuchSwitch name (Text.closeMatches (longNames switches) name))
      else readLetters switches (c :: cs)
  | _ => .ok .plain

/-- What words give: switches in order, and words for the parameters. -/
structure Given where
  switches : List Occurrence
  words : List Text
  deriving DecidableEq

/-- The words that end the switches. -/
def endOfSwitches : Text := "--"

/-- What words give. Where parameters end the switches, nothing after the first
    word for a parameter is read. -/
def readWords (switches : List Switch) (parametersEnd : Bool) :
    List Text → Except UsageError Given
  | [] => .ok ⟨[], []⟩
  | w :: ws =>
    if w = endOfSwitches then .ok ⟨[], ws⟩
    else
      match readWord switches w with
      | .error e => .error e
      | .ok .plain =>
        if parametersEnd then .ok ⟨[], w :: ws⟩
        else (readWords switches parametersEnd ws).map fun g => { g with words := w :: g.words }
      | .ok (.complete given) =>
        (readWords switches parametersEnd ws).map fun g =>
          { g with switches := given ++ g.switches }
      | .ok (.incomplete given key name) =>
        -- The next word is the value, even if it looks like a switch.
        match ws with
        | [] => .error (.valueMissing name)
        | v :: ws =>
          (readWords switches parametersEnd ws).map fun g =>
            { g with switches := given ++ ⟨key, .text v⟩ :: g.switches }

/-! ## Values -/

/-- The last value of a switch. -/
def Given.value? (g : Given) (key : Text) : Option Value :=
  (g.switches.reverse.find? fun o => o.key = key).map (·.value)

/-- The text given with a switch. -/
def Given.text? (g : Given) (key : Text) : Option Text :=
  match g.value? key with
  | some (.text t) => some t
  | _ => none

/-- Whether a switch is on. -/
def Given.isOn (g : Given) (key : Text) (default : Bool) : Bool :=
  match g.value? key with
  | some .on => true
  | some .off => false
  | _ => default

/-- Whether a switch was given. -/
def Given.has (g : Given) (key : Text) : Bool := g.switches.any fun o => o.key = key

/-- What is wrong with the value of a switch. -/
def Switch.check (isFolder : Text → Bool) (s : Switch) (value : Text) : Option UsageError :=
  match s.operand with
  | .oneOf words => if words.contains value then none else some (.notOneOf s value words)
  | .file =>
    if .char '\x00' ∈ value then some (.unusablePath value)
    else if isFolder value then some (.folder s value)
    else none
  | .path => if .char '\x00' ∈ value then some (.unusablePath value) else none
  | _ => none

/-- What is wrong with the values given, in the order of the switches. -/
def checkValues (isFolder : Text → Bool) (switches : List Switch) (g : Given) :
    Option UsageError :=
  g.switches.findSome? fun o =>
    match switches.find? fun s => s.key = o.key, g.text? o.key with
    | some s, some t => s.check isFolder t
    | _, _ => none

/-- What is wrong with the words for the parameters. -/
def Shape.checkWords (s : Shape) (words : List Text) : Option UsageError :=
  match (s.parameters.drop words.length).find? fun p => p.needed with
  | some p => some (.missing p.name)
  | none =>
    let left := if s.parameters.any fun p => p.many then [] else words.drop s.parameters.length
    if left = [] then none else some (.extra left)

/-- What words give a command that takes no subcommands, or what is wrong with
    them. A command that is asked for its page is given all that was read. -/
def Shape.read (s : Shape) (isFolder : Text → Bool) (words : List Text) :
    Except UsageError Given :=
  match readWords s.allSwitches false words with
  | .error e => .error e
  | .ok g =>
    if g.has helpSwitch.key then .ok g
    else
      match checkValues isFolder s.allSwitches g with
      | some e => .error e
      | none =>
        match s.checkWords g.words with
        | some e => .error e
        | none => .ok g

end Depot.CommandLine
