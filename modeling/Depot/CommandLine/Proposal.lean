import Depot.CommandLine.Reading

/-!
# Proposals for a word

While a command is being written, its next word can be proposed (`propose`): the name of
a subcommand, a switch that was not given yet, or a value for a switch that takes one.
What stands before the word is read as far as it can be (`readSome`). After that nothing
of it counts, for a command that is being written need not be one yet.
-/

namespace Depot.CommandLine

/-! ## Reading what can be read -/

/-- The switches at the start of a word of letters that can be read. -/
def someLetters (switches : List Switch) : Text → List Occurrence
  | [] => []
  | c :: cs =>
    match find? switches ['-', c] with
    | some (s, on) =>
      if s.takesValue then [] else ⟨s.key, if on then .on else .off⟩ :: someLetters switches cs
    | none => []

/-- What a word gives that cannot be read as a whole. -/
def someOfWord (switches : List Switch) : Text → List Occurrence
  | '-' :: c :: cs => if c = '-' then [] else someLetters switches (c :: cs)
  | _ => []

/-- What words give up to one that cannot be read. Words for the parameters are only known
    where all words can be read. -/
def readSome (switches : List Switch) (parametersEnd : Bool) (words : List Text) : Given :=
  match readWords switches parametersEnd words with
  | .ok g => g
  | .error _ => ⟨go words, []⟩
where
  /-- The switches up to a word that cannot be read. -/
  go : List Text → List Occurrence
    | [] => []
    | w :: ws =>
      match readWord switches w with
      | .error _ => someOfWord switches w
      | .ok .plain => go ws
      | .ok (.complete given) => given ++ go ws
      | .ok (.incomplete given key _) =>
        match ws with
        | [] => given
        | v :: ws => given ++ ⟨key, .text v⟩ :: go ws

/-! ## Proposals -/

/-- What is proposed for a word. -/
inductive Proposal where
  /-- A word, and what it is for. -/
  | word (t about : Text)
  /-- The path of a file that starts as it is written. -/
  | path (start : Text)
  deriving DecidableEq

/-- What is written of a command, up to a word of which the start is written. -/
structure Draft where
  /-- The words before. -/
  words : List Text
  /-- The start of the word. -/
  start : Text
  deriving DecidableEq

/-- Whether a word looks like a switch. -/
def isDashed (w : Text) : Bool := Text.startsWith '-' w

/-- The draft in which the value of a switch behind an equals sign is a word of its own. -/
def Draft.normal (d : Draft) : Draft :=
  if d.start = "=" then { d with start := [] }
  else
    match isDashed d.start, Text.cut '=' d.start with
    | true, some (name, value) => ⟨d.words ++ [name], value⟩
    | _, _ => d

/-- The switch of which the value is written. -/
def Draft.switch? (switches : List Switch) (d : Draft) : Option Switch :=
  d.words.getLast?.bind fun w => switches.find? fun s => s.takesValue && s.names.contains w

/-- What is proposed for a value. -/
def Operand.propose (start : Text) : Operand → List Proposal
  | .path | .file => [.path start]
  | .oneOf words => (words.filter start.isPrefixOf).map fun w => .word w []
  | .nothing | .text => []

/-- The switches proposed for a word: those that were not given yet. -/
def proposeSwitches (switches : List Switch) (g : Given) (start : Text) : List Proposal :=
  if start = [] then []
  else
    (switches.filter fun s => !g.has s.key).flatMap fun s =>
      ((s.names ++ s.offNames).filter start.isPrefixOf).map fun name => .word name s.about

/-- The most characters of what is said about a command. -/
def aboutLimit : Nat := 45

/-- The subcommands proposed for a word. -/
def proposeCommands (commands : List (Text × Shape)) (start : Text) : List Proposal :=
  (commands.filter fun c => start.isPrefixOf c.1).map fun c => .word c.1 (c.2.summary aboutLimit)

/-- What a command with some subcommands proposes for a word, after what was given. -/
def Shape.propose (s : Shape) (commands : List (Text × Shape)) (g : Given) (d : Draft) :
    List Proposal :=
  let own := proposeCommands commands d.start ++ proposeSwitches s.allSwitches g d.start
  if isDashed d.start && !d.words.contains endOfSwitches then own
  else
    match d.switch? s.allSwitches with
    | some switch => switch.operand.propose d.start
    | none =>
      let wanted := s.parameters.drop g.words.length
      if wanted.isEmpty && !s.parameters.any (·.many) then own else []

/-- What is proposed for a word of a command with some subcommands. Once one of them is
    named, it makes the proposals. -/
def propose (s : Shape) (commands : List (Text × Shape)) (d : Draft) : List Proposal :=
  let g := readSome s.allSwitches (commands ≠ []) d.words
  let named : Option (Shape × List Text) :=
    match commands, g.words with
    | [], _ | _, [] => none
    | commands, name :: rest => (commands.find? fun c => c.1 = name).map fun c => (c.2, rest)
  match named with
  | some (inner, rest) => inner.propose [] (readSome inner.allSwitches false rest) d.normal
  | none => s.propose commands g d.normal

end Depot.CommandLine
