import Depot.CommandLine.Line
import Depot.CommandLine.Proposal
import Depot.Json.Integer
import Depot.Program

/-!
# Shells

A shell can ask the program what to propose for the word that is being written. It does
so by a variable that holds the name of the shell and what it wants
(`Shell.Question.ofText`): the script that makes the shell ask (`Shell.script`), or the
proposals for a line that further variables hold (`Shell.draft`).
-/

namespace Depot.CommandLine

/-- A shell that can ask. -/
inductive Shell where
  | bash
  | zsh
  | fish
  deriving DecidableEq

namespace Shell

/-- The shell of a name. -/
def ofName? (name : Text) : Option Shell :=
  if name = "bash" then some .bash
  else if name = "zsh" then some .zsh
  else if name = "fish" then some .fish
  else none

/-! ## Scripts -/

/-- The name of the function in a script. -/
def function : Text := '_' :: (Program.name ++ "_completion")

/-- The lines of the script for `bash`. -/
def bashLines : List Text := [
  function ++ "() \x7b",
  "    local IFS=$'\\n'",
  "    local response",
  "",
  "    response=$(env COMP_WORDS=\"$\x7bCOMP_WORDS[*]\x7d\" COMP_CWORD=$COMP_CWORD " ++
    Program.shellVariable ++ "=bash_complete $1)",
  "",
  "    for completion in $response; do",
  "        IFS=',' read type value <<< \"$completion\"",
  "",
  "        if [[ $type == 'dir' ]]; then",
  "            COMPREPLY=()",
  "            compopt -o dirnames",
  "        elif [[ $type == 'file' ]]; then",
  "            COMPREPLY=()",
  "            compopt -o default",
  "        elif [[ $type == 'plain' ]]; then",
  "            COMPREPLY+=($value)",
  "        fi",
  "    done",
  "",
  "    return 0",
  "\x7d",
  "",
  function ++ "_setup() \x7b",
  "    complete -o nosort -F " ++ function ++ " " ++ Program.name,
  "\x7d",
  "",
  function ++ "_setup;"]

/-- The lines of the function for `zsh`. -/
def zshFunction : List Text := [
  "#compdef " ++ Program.name,
  "",
  function ++ "() \x7b",
  "    local -a completions",
  "    local -a completions_with_descriptions",
  "    local -a response",
  "    (( ! $+commands[" ++ Program.name ++ "] )) && return 1",
  "",
  "    response=(\"$\x7b(@f)$(env COMP_WORDS=\"$\x7bwords[*]\x7d\" COMP_CWORD=$((CURRENT-1)) " ++
    Program.shellVariable ++ "=zsh_complete " ++ Program.name ++ ")\x7d\")",
  "",
  "    for type key descr in $\x7bresponse\x7d; do",
  "        if [[ \"$type\" == \"plain\" ]]; then",
  "            if [[ \"$descr\" == \"_\" ]]; then",
  "                completions+=(\"$key\")",
  "            else",
  "                completions_with_descriptions+=(\"$key\":\"$descr\")",
  "            fi",
  "        elif [[ \"$type\" == \"dir\" ]]; then",
  "            _path_files -/",
  "        elif [[ \"$type\" == \"file\" ]]; then",
  "            _path_files -f",
  "        fi",
  "    done",
  "",
  "    if [ -n \"$completions_with_descriptions\" ]; then",
  "        _describe -V unsorted completions_with_descriptions -U",
  "    fi",
  "",
  "    if [ -n \"$completions\" ]; then",
  "        compadd -U -V unsorted -a completions",
  "    fi",
  "\x7d"]

/-- The lines that make `zsh` call the function. -/
def zshCall : List Text := [
  "if [[ $zsh_eval_context[-1] == loadautofunc ]]; then",
  "    # autoload from fpath, call function directly",
  "    " ++ function ++ " \"$@\"",
  "else",
  "    # eval/source/. command, register function for later",
  "    compdef " ++ function ++ " " ++ Program.name,
  "fi"]

/-- The lines of the script for `fish`. -/
def fishLines : List Text := [
  "function " ++ function ++ ";",
  "    set -l response (env " ++ Program.shellVariable ++
    "=fish_complete COMP_WORDS=(commandline -cp) COMP_CWORD=(commandline -t) " ++
    Program.name ++ ");",
  "",
  "    for completion in $response;",
  "        set -l metadata (string split \",\" $completion);",
  "",
  "        if test $metadata[1] = \"dir\";",
  "            __fish_complete_directories $metadata[2];",
  "        else if test $metadata[1] = \"file\";",
  "            __fish_complete_path $metadata[2];",
  "        else if test $metadata[1] = \"plain\";",
  "            echo $metadata[2];",
  "        end;",
  "    end;",
  "end;",
  "",
  "complete --no-files --command " ++ Program.name ++ " --arguments \"(" ++ function ++ ")\";"]

/-- The lines of the script for a shell. -/
def scriptLines : Shell → List Text
  | .bash => bashLines
  | .zsh => zshFunction ++ [] :: zshCall
  | .fish => fishLines

/-- The script that makes a shell ask. -/
def script (s : Shell) : Text := s.scriptLines.flatMap fun l => l ++ "\n"

/-! ## Lines that are being written -/

/-- The variable that tells which word is being written. -/
def wordVariable : Text := "COMP_CWORD"

/-- Why it cannot be told which word is being written. -/
inductive Fault where
  /-- A variable is not there. -/
  | unset (name : Text)
  /-- The place of the word is no number. -/
  | place (fault : Json.IntegerFault)
  /-- There is no word in its variable. -/
  | noWord
  deriving DecidableEq

/-- Why it cannot be told which word is being written, in words. -/
def Fault.message : Fault → Text
  | .unset name => "The variable " ++ name ++ " is not set"
  | .place fault => fault.message
  | .noWord => "The variable " ++ wordVariable ++ " holds no word"

/-- The draft in a line of which the word at some place is being written; places below
    zero count from the end. The first word of the line is the program. -/
def draftAt (words : List Text) (place : Int) : Draft :=
  let place := if place < 0 then words.length + place else place
  let start := if place < 0 then none else words[place.toNat]?
  ⟨(words.take place.toNat).drop 1, start.getD []⟩

/-- The draft in a line at the end of which a word is being written, if its start is
    known. -/
def draftBefore (words : List Text) (start : Text) : Draft :=
  let before := words.drop 1
  ⟨if start ≠ [] ∧ before.getLast? = some start then before.dropLast else before, start⟩

/-- The value of a variable that has to be there. -/
def needed (value? : Text → Option Text) (name : Text) : Except Fault Text :=
  match value? name with
  | some t => .ok t
  | none => .error (.unset name)

/-- What a shell tells by its variables about the line that is being written. -/
def draft (shell : Shell) (value? : Text → Option Text) : Except Fault Draft := do
  let words := lineWords (← needed value? "COMP_WORDS")
  let word ← needed value? wordVariable
  match shell with
  | .bash | .zsh =>
    match Json.integerOfText word with
    | .ok place => pure (draftAt words place)
    | .error fault => throw (.place fault)
  | .fish =>
    match word, lineWords word with
    | [], _ => pure (draftBefore words [])
    | _, start :: _ => pure (draftBefore words start)
    | _, [] => throw .noWord

/-! ## Answers -/

/-- A text with a backslash in front of every colon. -/
def escapeColons (t : Text) : Text :=
  t.flatMap fun c => if c = .char ':' then ['\\', c] else [c]

/-- A proposal as a shell is told it. -/
def told (s : Shell) (p : Proposal) : Text :=
  let (kind, value, about) : Text × Text × Text :=
    match p with
    | .word t about => ("plain", t, about)
    | .path start => ("file", start, [])
  match s with
  | .bash => kind ++ "," ++ value
  | .zsh =>
    if about = [] then kind ++ "\n" ++ value ++ "\n_"
    else kind ++ "\n" ++ escapeColons value ++ "\n" ++ about
  | .fish =>
    let described : Text := if about = [] then [] else '\t' :: about
    kind ++ "," ++ value ++ described

/-! ## Questions -/

/-- What a shell wants of the program. -/
inductive Question where
  | script (shell : Shell)
  | proposals (shell : Shell)
  /-- Nothing that the program knows. -/
  | unknown
  deriving DecidableEq

/-- What the variable asks for. -/
def Question.ofText (t : Text) : Question :=
  let (name, wanted) := (Text.cut '_' t).getD (t, [])
  match ofName? name with
  | none => .unknown
  | some shell =>
    if wanted = "source" then .script shell
    else if wanted = "complete" then .proposals shell
    else .unknown

end Shell

end Depot.CommandLine
