import Subtitler.Program.Start

/-!
# The command

Reads what the program needs to know, runs it, and writes what comes of it. Of the files only the
configuration is brought in. There is no network and no player.
-/

namespace Subtitler.Program

/-- The environment in which the program was started. -/
def readEnvironment : IO Environment := do
  return ⟨← IO.getEnv "HOME", ← IO.getEnv "XDG_CONFIG_HOME", ← IO.getEnv "XDG_CACHE_HOME", none⟩

/-- The content of a file, if it can be read. -/
def readFile? (path : String) : IO (Option (List UInt8)) := do
  try
    return some (← IO.FS.readBinFile path).toList
  catch _ => return none

/-- A tree that holds the file at a path, if there is one. -/
def readTree (path : Option String) : IO FileTree := do
  let empty : FileTree := ⟨[], []⟩
  match path with
  | none => return empty
  | some path =>
    match ← readFile? path with
    | none => return empty
    | some content => return (empty.writeBelow path content).1

/-- Writes the file at a path of a tree, unless it is the same in another tree. -/
def writeBack (before after : FileTree) (path : String) : IO Unit := do
  match before.read path, after.read path with
  | _, .error _ => return
  | .ok old, .ok new => if old == new then return else writeOut new
  | .error _, .ok new => writeOut new
where
  writeOut (content : List UInt8) : IO Unit := do
    if let some parent := Path.parent? path then
      if !parent.isEmpty then IO.FS.createDirAll parent
    IO.FS.writeBinFile path ⟨content.toArray⟩

/-- Surroundings without a network and without players. -/
def bareSurroundings (environment : Environment) (files : FileTree) (terminal : Bool) :
    Surroundings :=
  { environment
    files
    input := []
    terminal
    web := fun url => .unreachable s!"error sending request for url ({url})"
    installed := fun _ => false
    programs := fun _ => .error .notFound
    channelPath := ""
    channel := none }

/-- Runs a command and writes what comes of it. -/
def perform (invocation : CommandLine.Invocation) : IO UInt32 := do
  let output ← IO.getStdout
  let environment ← readEnvironment
  let path := invocation.config.or environment.configPath?
  let files ← readTree path
  let outcome := invoke (bareSurroundings environment files (← output.isTty)) invocation
  if let some path := path then writeBack files outcome.files path
  (← IO.getStderr).putStr outcome.written.err
  output.putStr outcome.written.out
  return .ofNat outcome.exit.number

end Subtitler.Program

/-- Runs the program. -/
def main (arguments : List String) : IO UInt32 := do
  match Subtitler.CommandLine.parse ("subplay" :: arguments) with
  | .ok invocation => Subtitler.Program.perform invocation
  | .error .version =>
    (← IO.getStdout).putStr Subtitler.Program.versionText
    return 0
  | .error cause =>
    (← IO.getStderr).putStrLn "Usage: subplay [OPTIONS] <COMMAND>"
    return .ofNat cause.exitCode
