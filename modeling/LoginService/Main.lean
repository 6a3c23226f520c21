import LoginService.Program

/-!
# The executable

Collects what the process finds and runs the program with it. The executable opens no connections:
no server is behind any socket for it, so a run of the service ends when it looks for its database.
-/

namespace LoginService.Executable

/-- The variables in the bytes that the system keeps for a process: each ends with a NUL. -/
def variablesIn (bytes : ByteArray) : Environment :=
  match Text.Utf8.decode? bytes.toList with
  | none => []
  | some s =>
    (Text.splitOnChar '\x00' s.toList).foldl
      (fun env cs =>
        if cs.contains '=' then
          env.set (String.ofList (cs.takeWhile (· ≠ '=')))
            (String.ofList ((cs.dropWhile (· ≠ '=')).drop 1))
        else env)
      []

/-- The names that are left when those that lead up are followed. -/
def resolved (names : List String) : List String :=
  names.foldl (fun found name => if name = ".." then found.dropLast else found ++ [name]) []

/-- The bytes of a file, if it can be read. -/
def bytesAt (path : String) : IO (Option ByteArray) := do
  try
    return some (← IO.FS.readBinFile path)
  catch _ => return none

/-- The files that a path leads to from a directory or one around it. -/
def filesFor (here : List String) (path : Path) : IO FileTree := do
  let mut tree : FileTree := { hasRoot := true }
  for start in if path.isAbsolute then [[]] else FileTree.ancestors here do
    let names := start ++ path.names
    if let some bytes ← bytesAt ("/" ++ Path.join names) then
      let passed := (List.range names.length).map fun n => resolved (names.take n)
      tree := { tree with
        files := tree.files ++ [(resolved names, bytes.toList)]
        directories := tree.directories ++ passed }
  return tree

/-- What the process finds when it is run with some arguments. -/
def findSurroundings (arguments : List String) : IO Surroundings := do
  let bytes ← bytesAt "/proc/self/environ"
  let directory ← IO.currentDir
  let here := (Path.ofString directory.toString).names
  let config :=
    match CommandLine.parse arguments with
    | .ok (.run path) => path
    | _ => CommandLine.defaultConfig
  let given ← filesFor here (Path.ofString Surroundings.variablesFile)
  let settings ← filesFor here (Path.ofString config)
  return {
    environment := variablesIn (bytes.getD .empty)
    files := { settings with
      files := given.files ++ settings.files
      directories := given.directories ++ settings.directories }
    here }

end LoginService.Executable

open LoginService in
/-- Run the program. -/
def main (arguments : List String) : IO UInt32 := do
  let surroundings ← Executable.findSurroundings arguments
  match Program.run surroundings arguments { server := none } with
  | none => return 0
  | some ending =>
    for e in ending.events do
      IO.println s!"{e.level.name} {e.target}: {e.line}"
    IO.print ending.output
    IO.eprint ending.complaint
    return ending.exitCode
