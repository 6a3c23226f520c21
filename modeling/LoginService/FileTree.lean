import LoginService.Text.Ascii

/-!
# Directories and files

A directory with files below it, as a list of files with their paths, and the directories that hold
none. Paths are resolved as they stand: going up from a directory that is not there leads nowhere,
and neither does going up from the outermost one.
-/

namespace LoginService

/-- A directory and what is below it. -/
structure FileTree where
  files : List (List String × List UInt8) := []
  /-- Directories that are there even if they hold no file. -/
  directories : List (List String) := []
  /-- Whether the outermost directory is the root of all directories. -/
  hasRoot : Bool := false
  deriving Repr

/-- A path from a directory to a file. -/
structure Path where
  /-- The names to follow, one after another; two points lead up. -/
  names : List String
  /-- Whether the path begins at the root of all directories. -/
  isAbsolute : Bool
  /-- Whether the path can only be that of a directory. -/
  isDirectory : Bool
  deriving DecidableEq, Repr

namespace Path

/-- The path that a string spells. -/
def ofString (s : String) : Path :=
  let names := (Text.splitOnChar '/' s.toList).map String.ofList
  { names := names.filter (fun name => name ≠ "" ∧ name ≠ ".")
    isAbsolute := names.length ≠ 1 ∧ names.head? = some ""
    isDirectory := names.getLast? = some "" ∨ names.getLast? = some "." }

/-- The names that lead from one directory to a path, both given from a common start. -/
def relativeTo : List String → List String → List String
  | [], base => base.map fun _ => ".."
  | path, [] => path
  | name :: path, step :: base =>
    if name = step then relativeTo path base
    else ".." :: base.map (fun _ => "..") ++ name :: path

/-- Names as a string. -/
def join (names : List String) : String := Text.joinWith "/" names

end Path

namespace FileTree

/-- Whether there is a directory at a path. -/
def hasDirectory (t : FileTree) (path : List String) : Bool :=
  path.isEmpty || t.directories.any path.isPrefixOf ||
    t.files.any (fun file => path.isPrefixOf file.1 && path.length < file.1.length)

/-- The path reached from a directory by following names. -/
def follow? (t : FileTree) : List String → List String → Option (List String)
  | here, [] => some here
  | here, name :: names =>
    if !t.hasDirectory here then none
    else if name = ".." then if here.isEmpty then none else t.follow? here.dropLast names
    else t.follow? (here ++ [name]) names

/-- The bytes of the file that a path leads to from a directory. -/
def read? (t : FileTree) (here : List String) (path : Path) : Option (List UInt8) :=
  if path.isDirectory || (path.isAbsolute && !t.hasRoot) then none
  else
    let start := if path.isAbsolute then [] else here
    (t.follow? start path.names).bind fun found => t.files.lookup found

/-- A directory and all directories around it, innermost first. The fuel bounds their number. -/
def ancestorsFrom : Nat → List String → List (List String)
  | 0, here => [here]
  | fuel + 1, here => here :: (if here.isEmpty then [] else ancestorsFrom fuel here.dropLast)

/-- A directory and all directories around it, innermost first. -/
def ancestors (here : List String) : List (List String) := ancestorsFrom here.length here

/-- The first file that a path leads to from a directory or one around it: its name as it is shown
in the directory, and its bytes. -/
def search? (t : FileTree) (here : List String) (path : Path) :
    Option (String × List UInt8) :=
  let starts := if path.isAbsolute then [[]] else ancestors here
  starts.findSome? fun start =>
    (t.read? start path).map fun bytes =>
      (Path.join (Path.relativeTo (start ++ path.names) here), bytes)

end FileTree

end LoginService
