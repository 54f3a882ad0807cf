import Subtitler.Environment
import Subtitler.Http
import Subtitler.Output
import Subtitler.Player.Launch
import Subtitler.Settings.Store

/-!
# The program and its surroundings

What the program finds around it when it is started, and what it leaves behind when it ends.
-/

namespace Subtitler.Program

/-- What the program finds: its environment, the files, what the user types, the web, and the
players. `channel` says what comes back over a player's control channel at the first call, the
second one and so on, if the channel opens at all. -/
structure Surroundings where
  environment : Environment
  files : FileTree
  input : List UInt8
  terminal : Bool
  web : Web
  installed : PlayerKind → Bool
  programs : PlayerKind.Programs
  channelPath : String
  channel : Option (Nat → List UInt8)

/-- What the program leaves behind: how it ended, what it wrote, the files, the addresses that it
asked for, the arguments of the player that it started, and the records that went over the player's
control channel. -/
structure Outcome where
  exit : ExitCode
  written : Written
  files : FileTree
  asked : List String := []
  launched : Option (List String) := none
  commands : List Json := []

/-- Puts text before what was written to standard error. -/
def Outcome.after (outcome : Outcome) (text : String) : Outcome :=
  { outcome with written := { outcome.written with err := text ++ outcome.written.err } }

/-- Where the configuration is: at the path that is given, or at its default place. -/
def configPath? (s : Surroundings) (given : Option String) : Option String :=
  given.or s.environment.configPath?

/-- The settings of a user who has set nothing. -/
def defaultSettings (s : Surroundings) : Settings := .default s.environment.cacheDirectory

/-- Opens the settings, which are kept nowhere if there is no place for them. -/
def openSettings (s : Surroundings) (given : Option String) : SettingsStore :=
  match configPath? s given with
  | some path => .openAt (defaultSettings s) s.files path
  | none => ⟨defaultSettings s, none⟩

/-- The end with an error. -/
def failure (s : Surroundings) (output : Output) (message : String) (exit : ExitCode) : Outcome :=
  { exit, written := output.error message exit, files := s.files }

end Subtitler.Program
