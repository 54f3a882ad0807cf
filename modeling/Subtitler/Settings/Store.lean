import Subtitler.Settings.File

/-!
# The settings store

A store holds the current settings and, if it has a path, keeps the file there up to date. An
update is saved first, then taken over, then announced: one announcement for each setting that has
changed, all with the new settings. Taking over and announcing are separate steps, so that updates
made at the same time may announce in another order.
-/

namespace Subtitler

/-- Says that a setting has changed, and to what. -/
structure Announcement where
  setting : SettingName
  settings : SubtitleSettings
deriving DecidableEq, Repr

/-- The current settings and where they are kept. -/
structure SettingsStore where
  settings : Settings
  path : Option String
deriving DecidableEq, Repr

namespace SettingsStore

/-- The store of the settings at a path. -/
def openAt (base : Settings) (tree : FileTree) (path : String) : SettingsStore :=
  ⟨Settings.load base tree path, some path⟩

/-- The preference that the settings state. -/
def preference (store : SettingsStore) : Preference := store.settings.subtitles.preference

/-- What comes of an update. -/
structure Update where
  store : SettingsStore
  tree : FileTree
  result : Except FileError (List Announcement)

/-- Saves settings where the store keeps them. -/
def persist (store : SettingsStore) (tree : FileTree) (settings : Settings) :
    FileTree × Except FileError Unit :=
  match store.path with
  | some path => settings.save tree path
  | none => (tree, .ok ())

/-- Replaces the settings for subtitles and says what is to be announced. If nothing changes, the
store keeps even the old spelling of the directory; if saving fails, it keeps all. -/
def update (store : SettingsStore) (tree : FileTree) (new : SubtitleSettings) : Update :=
  let changed := new.differences store.settings.subtitles
  if changed.isEmpty then ⟨store, tree, .ok []⟩
  else
    let settings := { store.settings with subtitles := new }
    match store.persist tree settings with
    | (tree, .error cause) => ⟨store, tree, .error cause⟩
    | (tree, .ok ()) => ⟨{ store with settings }, tree, .ok (changed.map fun name => ⟨name, new⟩)⟩

end SettingsStore

end Subtitler
