import Depot.Text.Quoted

/-!
# Shapes of commands

The shape of a command says which words it takes: switches, which start with a
dash and may be followed by a value, and parameters, which are told apart by
their order. It also says what the command is for. Reading words
(`CommandLine.Reading`) and writing the page that explains a command
(`CommandLine.Page`) both go by its shape.
-/

namespace Depot.CommandLine

/-- What follows a switch. -/
inductive Operand where
  /-- Nothing; the switch is on or off. -/
  | nothing
  | text
  /-- The path of anything. -/
  | path
  /-- The path of something that is no folder. -/
  | file
  /-- One of some words. -/
  | oneOf (words : List Text)
  deriving DecidableEq

/-- A switch. -/
structure Switch where
  /-- By what its values are looked up. -/
  key : Text
  /-- The words that it is given by. -/
  names : List Text
  /-- The words that take it back. -/
  offNames : List Text := []
  operand : Operand := .nothing
  /-- What it is for. -/
  about : Text
  /-- What is shown as its value when it is not given. -/
  shownDefault : Option Text := none
  deriving DecidableEq

/-- A parameter. -/
structure Parameter where
  name : Text
  /-- Whether it has to be given. -/
  needed : Bool := true
  /-- Whether it takes all words that are left. -/
  many : Bool := false
  deriving DecidableEq

/-- A paragraph of an explanation. -/
inductive Paragraph where
  /-- Broken into lines where it has to be. -/
  | flowing (t : Text)
  /-- The lines as they are. -/
  | lines (ls : List Text)
  deriving DecidableEq

/-- A command. -/
structure Shape where
  /-- What it is for. -/
  about : List Paragraph
  switches : List Switch
  parameters : List Parameter := []
  deriving DecidableEq

/-- The switch that every command has. -/
def helpSwitch : Switch where
  key := "help"
  names := ["--help"]
  about := "Show this message and exit."

/-- The switches of a command. -/
def Shape.allSwitches (s : Shape) : List Switch := s.switches ++ [helpSwitch]

/-- Whether a switch takes a value. -/
def Switch.takesValue (s : Switch) : Bool := s.operand ≠ .nothing

end Depot.CommandLine
