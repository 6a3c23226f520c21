import LoginService.Decimal.Shortest
import LoginService.Text.Quoted

/-!
# Trees of settings

A source of settings gives a tree: dictionaries whose members are ordered by key, lists and scalars.
Every node remembers its source, which is named when it is refused. Two trees are laid over each
other by merging dictionaries deeply; anything else is replaced as a whole.
-/

namespace LoginService.Settings

/-- Where settings come from. -/
inductive Source where
  | builtIn
  /-- A file, named as it is found from the current directory. -/
  | file (path : String)
  | environment
  deriving DecidableEq, Repr

/-- A value without parts. Whole numbers remember whether they were read as signed ones. -/
inductive Scalar where
  | unit
  | bool (b : Bool)
  | unsigned (n : Nat)
  | signed (i : Int)
  | float (x : Decimal.Binary64)
  | text (s : String)
  deriving DecidableEq, Repr

/-- A tree of settings. -/
inductive Tree where
  | scalar (source : Source) (s : Scalar)
  | list (source : Source) (items : List Tree)
  | dict (source : Source) (members : List (String × Tree))
  deriving Repr

/-- Members of a dictionary, ordered by key. -/
abbrev Members := List (String × Tree)

namespace Members

/-- Set the value of a key to what is made of its value so far. -/
def change (key : String) (f : Option Tree → Tree) : Members → Members
  | [] => [(key, f none)]
  | (k, v) :: rest =>
    if key = k then (k, f (some v)) :: rest
    else if key < k then (key, f none) :: (k, v) :: rest
    else (k, v) :: change key f rest

/-- Set the value of a key. -/
def insert (m : Members) (key : String) (value : Tree) : Members :=
  change key (fun _ => value) m

/-- Members in any order as an ordered list; the last of equal keys is kept. -/
def ofList (members : List (String × Tree)) : Members :=
  members.foldl (fun m member => insert m member.1 member.2) []

/-- The value of a key. -/
def get? (m : Members) (key : String) : Option Tree := List.lookup key m

end Members

namespace Tree

/-- The source of a tree. -/
def source : Tree → Source
  | .scalar s _ | .list s _ | .dict s _ => s

mutual

/-- One tree laid over another. -/
def merge (below : Tree) : Tree → Tree
  | .dict source members =>
    match below with
    | .dict _ old => .dict source (mergeMembers old members)
    | _ => .dict source members
  | t => t

/-- Members laid over others. -/
def mergeMembers (below : Members) : List (String × Tree) → Members
  | [] => below
  | (key, value) :: rest =>
    mergeMembers (Members.change key (fun
      | some old => merge old value
      | none => value) below) rest

end

/-- The part of a tree at a path of keys. -/
def get? : List String → Tree → Option Tree
  | [], t => some t
  | key :: path, .dict _ members => (Members.get? members key).bind (get? path)
  | _, _ => none

/-- A tree that has only one path, at whose end it has a value. -/
def nested (source : Source) (value : Tree) : List String → Tree
  | [] => value
  | key :: path => .dict source [(key, nested source value path)]

end Tree

end LoginService.Settings
