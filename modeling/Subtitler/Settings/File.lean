import Subtitler.FileTree.Basic
import Subtitler.Settings.Form
import Subtitler.Text.Utf8
import Subtitler.Toml.Quoted
import Subtitler.Toml.Reader

/-!
# The settings file

Settings are saved as TOML text with one line for each of them; a setting without a value has no
line. Loading is lenient: without a file, or with one that cannot be read as settings, it gives the
defaults.
-/

namespace Subtitler.Settings

/-! ## Text -/

/-- The line of a setting. -/
def line (name : String) (value : List Char) : List Char :=
  name.toList ++ [' ', '=', ' '] ++ value ++ ['\n']

/-- A truth value. -/
def boolText (b : Bool) : List Char := if b then "true".toList else "false".toList

/-- A quoted text. -/
def quoted (s : String) : List Char := Toml.quote s.toList

/-- The line of a text that may be absent. -/
def optionalLine (name : String) : Option String → List Char
  | some s => line name (quoted s)
  | none => []

/-- The text of the settings. -/
def toText (s : Settings) : List Char :=
  "[subtitles]\n".toList ++
    line "directory" (quoted s.subtitles.directory) ++
    line "auto_cleaning_enabled" (boolText s.subtitles.autoCleaning) ++
    optionalLine "default_language" s.subtitles.defaultLanguage ++
    line "font_family" (quoted s.subtitles.fontFamily.name) ++
    line "font_size" (Decimal.digits s.subtitles.fontSize.toNat) ++
    line "decoration" (quoted s.subtitles.decoration.name) ++
    line "bold" (boolText s.subtitles.bold) ++
    "\n[player]\n".toList ++
    optionalLine "preferred" s.player

/-- The settings that a text states; `base` has the defaults. -/
def ofText? (base : Settings) (text : List Char) : Option Settings := do
  read? .toml base (← Toml.parse? text)

/-! ## Files -/

/-- Loads the settings at a path, or the defaults. -/
def load (base : Settings) (tree : FileTree) (path : String) : Settings :=
  match tree.read path with
  | .ok bytes => ((Text.Utf8.decode? bytes).bind (ofText? base)).getD base
  | .error _ => base

/-- Saves the settings at a path and makes the directories above it. -/
def save (s : Settings) (tree : FileTree) (path : String) : FileTree × Except FileError Unit :=
  tree.writeBelow path (Text.Utf8.encode s.toText)

end Subtitler.Settings
