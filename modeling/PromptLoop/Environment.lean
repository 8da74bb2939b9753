/-!
# The environment of a program

What a program finds around it when it starts: the platform it runs on and the variables that are
set.

## Main definitions

* `Environment`: the platform and the variables
* `Environment.get?`, `Environment.set`: one variable
-/

namespace PromptLoop

/-- The platform a program runs on and the variables that are set. -/
structure Environment where
  platform : String := "linux"
  /-- Variables with their values; of two with one name the first counts. -/
  bindings : List (String × String) := []
  deriving DecidableEq, Repr

namespace Environment

/-- The value of a variable, if it is set. -/
def get? (env : Environment) (name : String) : Option String := env.bindings.lookup name

/-- The value of a variable, if it is set to a non-empty text. -/
def filled? (env : Environment) (name : String) : Option String :=
  (env.get? name).filter (· ≠ "")

/-- The environment once a variable is set. -/
def set (env : Environment) (name value : String) : Environment :=
  { env with bindings := (name, value) :: env.bindings }

@[simp] theorem get?_set_self (env : Environment) (name value : String) :
    (env.set name value).get? name = some value := by
  simp [set, get?]

theorem get?_set_of_ne (env : Environment) {name other : String} (value : String)
    (h : other ≠ name) : (env.set name value).get? other = env.get? other := by
  have hb : (other == name) = false := by simpa using h
  simp [set, get?, List.lookup_cons, hb]

end Environment

end PromptLoop
