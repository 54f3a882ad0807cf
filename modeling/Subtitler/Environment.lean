import Subtitler.Path

/-!
# Where the program keeps its files

The configuration and the cache have default places below the home directory. Variables that name
other directories count only if they hold paths from the root.
-/

namespace Subtitler

/-- The variables that decide on the default places, and the home directory of the account. -/
structure Environment where
  home : Option String
  configHome : Option String
  cacheHome : Option String
  accountHome : Option String
deriving DecidableEq, Repr

namespace Environment

/-- The name of the program's own directories. -/
def programName : String := "subplay"

/-- The home directory: the one named by the variable, if it names any. -/
def home? (env : Environment) : Option String :=
  (env.home.filter (!·.isEmpty)).or env.accountHome

/-- A directory that a variable names, or a directory below the home directory. -/
def directory? (env : Environment) (named : Option String) (fallback : String) :
    Option String :=
  (named.filter Path.isAbsolute).or (env.home?.map fun home => Path.join home fallback)

/-- The default place of the configuration. -/
def configPath? (env : Environment) : Option String :=
  (env.directory? env.configHome ".config").map fun directory =>
    Path.join (Path.join directory programName) "config.toml"

/-- The default directory for fetched subtitles. -/
def cacheDirectory (env : Environment) : String :=
  let directory := (env.directory? env.cacheHome ".cache").getD "/tmp"
  Path.join (Path.join directory programName) "subtitles"

end Environment

end Subtitler
