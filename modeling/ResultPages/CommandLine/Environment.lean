/-
The environment of a process: variables with octets for their values.
-/
import ResultPages.Text.Utf8

namespace ResultPages

/-- The variables that are set. -/
abbrev Environment : Type := List (String × Octets)

namespace Environment

/-- The value of a variable. -/
def get? (env : Environment) (name : String) : Option Octets :=
  (env.find? (·.1 = name)).map (·.2)

/-- The value of a variable if it is text; other octets count as no value. -/
def text? (env : Environment) (name : String) : Option String :=
  (env.get? name).bind Octets.toString?

end Environment

end ResultPages
