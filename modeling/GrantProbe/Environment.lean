/-!
# The environment

* `Environment`: the values of the environment's variables;
* `Environment.ofList`: an environment that is given as a list.
-/

namespace GrantProbe

/-- **The values of the environment's variables.** -/
abbrev Environment : Type := String → Option String

/-- The environment of a list of variables, of which the first of a name counts. -/
def Environment.ofList (entries : List (String × String)) : Environment := fun name =>
  entries.lookup name

end GrantProbe
