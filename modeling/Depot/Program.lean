import Depot.Text

/-!
# The program

What the program calls itself, in its own messages and towards the server.
-/

namespace Depot.Program

/-- The name of the program. -/
def name : Text := "artq"

/-- The version of the program. -/
def version : Text := "0.1.0"

/-- The variable by which a shell asks the program what to propose. -/
def shellVariable : Text := "_ARTQ_COMPLETE"

end Depot.Program
