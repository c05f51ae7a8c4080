import OverlayGateway.Decimal.Unsigned
import OverlayGateway.Text.Basic
/-!
Environment variables. An empty value counts as unset; a numeric variable that does not hold an
unsigned decimal of the expected width, blanks around it aside, falls back to its default.
-/

set_option autoImplicit false
set_option relaxedAutoImplicit false

namespace OverlayGateway

/-- The variables of a process, by name. -/
structure Environment where
  value? : String → Option String

namespace Environment

/-- The environment that holds the listed pairs; the first pair of a name counts. -/
def ofList (vars : List (String × String)) : Environment := ⟨fun key ↦ vars.lookup key⟩

/-- The value of a variable that is set to a text other than the empty one. -/
def nonEmpty? (env : Environment) (key : String) : Option String :=
  (env.value? key).filter (· ≠ "")

/-- The first value that is not empty, in the order of the names. -/
def firstNonEmpty? (env : Environment) (keys : List String) : Option String :=
  keys.findSome? env.nonEmpty?

/-- The number below `limit` that a variable holds, else `default`. -/
def natBelow (env : Environment) (limit : Nat) (key : String) (default : Nat) : Nat :=
  ((env.nonEmpty? key).bind fun value ↦ Decimal.read? limit (Text.trim value)).getD default

end Environment

/-- The entries of a list that is written with commas, blanks around each entry dropped. -/
def listEntries (value : String) : List String := (Text.split ',' value).map Text.trim

end OverlayGateway
