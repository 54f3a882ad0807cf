import Subtitler.Path
import Subtitler.Player.Kind
import Subtitler.Preference

/-!
# Settings

The settings for subtitles and for the player. Directories are the same when they are the same
path, however they are spelled.
-/

namespace Subtitler

/-- The font of overlaid subtitles. -/
inductive FontFamily
  | arial
  | comicSans
  | georgia
  | tahoma
  | trebuchetMs
  | verdana
deriving DecidableEq, Repr

namespace FontFamily

/-- The name of a font. -/
def name : FontFamily → String
  | arial => "arial"
  | comicSans => "comic_sans"
  | georgia => "georgia"
  | tahoma => "tahoma"
  | trebuchetMs => "trebuchet_ms"
  | verdana => "verdana"

/-- The font of a name. -/
def ofName? (s : String) : Option FontFamily :=
  [arial, comicSans, georgia, tahoma, trebuchetMs, verdana].find? (·.name == s)

end FontFamily

/-- What is drawn around overlaid subtitles. -/
inductive Decoration
  | none
  | outline
  | opaqueBackground
  | seeThroughBackground
deriving DecidableEq, Repr

namespace Decoration

/-- The name of a decoration. -/
def name : Decoration → String
  | none => "none"
  | outline => "outline"
  | opaqueBackground => "opaque_background"
  | seeThroughBackground => "see_through_background"

/-- The decoration of a name. -/
def ofName? (s : String) : Option Decoration :=
  [none, outline, opaqueBackground, seeThroughBackground].find? (·.name == s)

end Decoration

/-- The settings for subtitles. -/
structure SubtitleSettings where
  directory : String
  autoCleaning : Bool
  defaultLanguage : Option String
  fontFamily : FontFamily
  fontSize : UInt32
  decoration : Decoration
  bold : Bool
deriving DecidableEq, Repr

/-- A setting for subtitles. -/
inductive SettingName
  | defaultLanguage
  | fontFamily
  | fontSize
  | decoration
  | bold
  | directory
  | autoCleaning
deriving DecidableEq, Repr

namespace SettingName

/-- The name of a setting as it is announced and written. -/
def text : SettingName → String
  | defaultLanguage => "default_language"
  | fontFamily => "font_family"
  | fontSize => "font_size"
  | decoration => "decoration"
  | bold => "bold"
  | directory => "directory"
  | autoCleaning => "auto_cleaning_enabled"

/-- All settings, in the order in which changes are announced. -/
def all : List SettingName :=
  [defaultLanguage, fontFamily, fontSize, decoration, bold, directory, autoCleaning]

end SettingName

namespace SubtitleSettings

/-- The settings of a user who has set nothing, with the default directory for subtitles. -/
def default (directory : String) : SubtitleSettings :=
  { directory
    autoCleaning := true
    defaultLanguage := none
    fontFamily := .arial
    fontSize := 28
    decoration := .outline
    bold := false }

/-- Whether one setting has the same value in both. -/
def agreeOn (a b : SubtitleSettings) : SettingName → Bool
  | .defaultLanguage => a.defaultLanguage == b.defaultLanguage
  | .fontFamily => a.fontFamily == b.fontFamily
  | .fontSize => a.fontSize == b.fontSize
  | .decoration => a.decoration == b.decoration
  | .bold => a.bold == b.bold
  | .directory => Path.same a.directory b.directory
  | .autoCleaning => a.autoCleaning == b.autoCleaning

/-- The settings in which two differ. -/
def differences (a b : SubtitleSettings) : List SettingName :=
  SettingName.all.filter fun name => !agreeOn a b name

/-- The preference that the settings state. -/
def preference (s : SubtitleSettings) : Preference := .ofLanguage s.defaultLanguage

end SubtitleSettings

/-- All settings: those for subtitles, and the name of the preferred player. -/
structure Settings where
  subtitles : SubtitleSettings
  player : Option String
deriving DecidableEq, Repr

namespace Settings

/-- The settings of a user who has set nothing. -/
def default (directory : String) : Settings := ⟨.default directory, none⟩

/-- The preferred player. -/
def playerKind (s : Settings) : PlayerKind := (s.player.bind PlayerKind.ofName?).getD .vlc

/-- Whether two settings say the same. -/
def same (a b : Settings) : Bool :=
  (a.subtitles.differences b.subtitles).isEmpty && a.player == b.player

end Settings

end Subtitler
