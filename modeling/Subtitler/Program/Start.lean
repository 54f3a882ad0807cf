import Subtitler.Program.Configure
import Subtitler.Program.Play
import Subtitler.Program.Search

/-!
# Starting the program

The command line decides what the program does. Output that does not go to a terminal is always
JSON.
-/

namespace Subtitler.Program

/-- What is written when the version is asked for. -/
def versionText : String := "subplay 0.1.0\n"

/-- Runs a command. -/
def invoke (s : Surroundings) (invocation : CommandLine.Invocation) : Outcome :=
  let output : Output := ⟨invocation.json || !s.terminal, invocation.quiet⟩
  match invocation.command with
  | .play command => play s invocation.config output command
  | .subtitles command => search s invocation.config output command
  | .config command => configure s invocation.config output command

/-- Runs the program with the words of its command line, the first of which is its name. -/
def start (s : Surroundings) (words : List String) : Except CommandLine.UsageError Outcome :=
  (CommandLine.parse words).map (invoke s)

end Subtitler.Program
