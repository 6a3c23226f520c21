import LoginService.Settings.ValueSyntax

/-!
# Settings in the environment

A variable whose name begins with `APP_` sets the setting whose path the rest of the name spells,
with two underscores or a point between keys. Names count up to the case of ASCII letters. Variables
are laid over each other in the order of the environment.
-/

namespace LoginService

/-- The variables of a process, in order. No name occurs twice. -/
abbrev Environment := List (String × String)

namespace Environment

/-- Set a variable. One that is already set keeps its place. -/
def set (name value : String) : Environment → Environment
  | [] => [(name, value)]
  | (n, v) :: rest => if n = name then (n, value) :: rest else (n, v) :: set name value rest

/-- The value of a variable. -/
def get? (env : Environment) (name : String) : Option String := List.lookup name env

end Environment

namespace Settings

open Text

/-- What the names of variables with settings begin with. -/
def variablePrefix : String := "APP_"

/-- The characters after the ones that a name begins with, compared up to letter case. -/
def dropPrefix? (start name : List Char) : Option (List Char) :=
  if (name.take start.length).map lowerChar = start.map lowerChar then some (name.drop start.length)
  else none

/-- A name with a point for every two underscores. -/
def replaceUnderscores : List Char → List Char
  | '_' :: '_' :: rest => '.' :: replaceUnderscores rest
  | c :: rest => c :: replaceUnderscores rest
  | [] => []

/-- The path that the name of a variable spells. -/
def variablePath? (name : String) : Option (List String) :=
  match dropPrefix? variablePrefix.toList (trimChars name.toList) with
  | none => none
  | some rest =>
    let keys := splitOnChar '.' (trimChars (replaceUnderscores rest))
    if keys.any (·.isEmpty) then none
    else some (keys.map fun key => String.ofList (key.map lowerChar))

/-- What a variable sets. -/
def ofVariable? (v : String × String) : Option Tree :=
  (variablePath? v.1).map (Tree.nested .environment (Tree.ofVariable v.2))

/-- What the variables of an environment set. -/
def environmentTree (env : Environment) : Tree :=
  (env.filterMap ofVariable?).foldl Tree.merge (.dict .environment [])

end Settings

end LoginService
