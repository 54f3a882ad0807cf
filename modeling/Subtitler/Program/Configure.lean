import Subtitler.CommandLine.Command
import Subtitler.Program.Basic
import Subtitler.Settings.Form

/-!
# Showing and changing settings

Every action but showing changes one setting for subtitles and leaves all others as they are.
-/

namespace Subtitler.Program

/-- The settings after an action, and none if the action is not allowed. -/
def changed? (command : CommandLine.ConfigCommand) (settings : SubtitleSettings) :
    Option SubtitleSettings :=
  match command with
  | .show => some settings
  | .setLanguage code => some { settings with defaultLanguage := some code }
  | .disable => some { settings with defaultLanguage := none }
  | .setSize size => if size = 0 then none else some { settings with fontSize := size }

/-- Saves settings and says where. -/
def saveSettings (s : Surroundings) (output : Output) (store : SettingsStore)
    (settings : SubtitleSettings) : Outcome :=
  match store.path with
  | none => failure s output "Could not determine config path" .failure
  | some path =>
    let update := store.update s.files settings
    match update.result with
    | .error cause =>
      let cause := cause.message
      let failed := failure s output s!"Failed to save config: {cause}" .failure
      { failed with files := update.tree }
    | .ok _ =>
      { exit := .success
        written := output.print (.object [("status", .text "ok"), ("path", .text path)])
        files := update.tree }

/-- Shows or changes settings. -/
def configure (s : Surroundings) (given : Option String) (output : Output)
    (command : CommandLine.ConfigCommand) : Outcome :=
  let store := openSettings s given
  match command, changed? command store.settings.subtitles with
  | .show, _ =>
    { exit := .success, written := output.print store.settings.toJson, files := s.files }
  | _, none => failure s output "Subtitle size must be positive" .invalidArguments
  | _, some settings => saveSettings s output store settings

end Subtitler.Program
