import Depot.Build.Wildcard
import Depot.Json.Basic
import Depot.Text.Case

/-!
# Environments

The environment of a build is a list of variables, each with a value. Two lists
of wildcards decide which of them are published: a variable has to match one of
the first, telling upper case from lower case, and none of the second, where
case makes no difference, so that `*password*` also withholds `DB_PASSWORD`.

The filters do not look at values, which may be anything.
-/

namespace Depot.Build.Environment

/-- The wildcards of a `;`-separated list, without the empty ones. -/
def splitPatterns (t : Text) : List Text :=
  (Text.pieces ';' t).filter (· ≠ [])

/-- Whether a variable matches one of some wildcards. -/
def included (patterns : List Text) (key : Text) : Bool :=
  patterns.any fun p => Wildcard.stands p key

/-- Whether a variable matches one of some wildcards when case is ignored. -/
def excluded (patterns : List Text) (key : Text) : Bool :=
  patterns.any fun p => Wildcard.stands (Text.lower p) (Text.lower key)

/-- The variables that match one of some wildcards. -/
def keepIncluded {α : Type} (patterns : List Text) (env : List (Text × α)) : List (Text × α) :=
  env.filter fun v => included patterns v.1

/-- The variables that match none of some wildcards when case is ignored. -/
def dropExcluded {α : Type} (patterns : List Text) (env : List (Text × α)) : List (Text × α) :=
  env.filter fun v => !excluded patterns v.1

/-- The variables that are published. -/
def publishable {α : Type} (keep withhold : List Text) (env : List (Text × α)) :
    List (Text × α) :=
  dropExcluded withhold (keepIncluded keep env)

end Depot.Build.Environment
