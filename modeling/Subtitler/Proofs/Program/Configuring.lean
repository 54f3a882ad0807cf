import Subtitler.Main
import Subtitler.Proofs.Settings.Updates

/-!
# Changing settings by commands

Each command loads the settings, changes one of them and saves them all. Since what is saved is
loaded again as it was (`Settings.load_of_read`), and nothing need be saved where nothing changes,
the next command starts from what the one before has asked for (`load_configure`).

**Theorem (`load_configureAll`).** After any commands whose saves succeed, the settings are those of
the start with what was asked for done in order, whatever the file was at the start: there or not,
settings or not. To show the settings changes no file, and neither does a size of zero, which is
refused.
-/

namespace Subtitler

open CommandLine

/-- The settings after a command. Everything that is not named stays, and zero is no size. -/
def CommandLine.ConfigCommand.asked (command : ConfigCommand) (settings : Settings) : Settings :=
  match command with
  | .show => settings
  | .setLanguage code => { settings with subtitles.defaultLanguage := some code }
  | .disable => { settings with subtitles.defaultLanguage := none }
  | .setSize size =>
    if size = 0 then settings else { settings with subtitles.fontSize := size }

/-- Settings that are the same are equal if the directory is spelled in the same way. -/
theorem SubtitleSettings.Same.eq {new old : SubtitleSettings} (h : new.Same old)
    (hdirectory : new.directory = old.directory) : new = old := by
  obtain ⟨hlanguage, hfamily, hsize, hdecoration, hbold, -, hcleaning⟩ := h
  cases new
  cases old
  simp_all only

namespace Program

/-- Commands one after the other, each with the output that it was given: how they end, and the
files after them. Each command finds the files that the one before has left. -/
def configureAll (s : Surroundings) (given : Option String) :
    List (Output × ConfigCommand) → List ExitCode × FileTree
  | [] => ([], s.files)
  | (output, command) :: rest =>
    let outcome := configure s given output command
    let (exits, files) := configureAll { s with files := outcome.files } given rest
    (outcome.exit :: exits, files)

variable {s : Surroundings} {given : Option String} {path : String}

/-- The settings at a path, or the default ones. -/
def settingsAt (s : Surroundings) (files : FileTree) (path : String) : Settings :=
  Settings.load (defaultSettings s) files path

theorem openSettings_eq (hpath : configPath? s given = some path) :
    openSettings s given = ⟨settingsAt s s.files path, some path⟩ := by
  rw [openSettings, hpath]
  rfl

/-! ## One command -/

/-- Saved settings are loaded again. They need not be saved if nothing changes, not even the
spelling of the directory. -/
theorem load_saveSettings {output : Output} {new : SubtitleSettings}
    (hdirectory : new.directory = (settingsAt s s.files path).subtitles.directory)
    (hexit : (saveSettings s output ⟨settingsAt s s.files path, some path⟩ new).exit ≠ .failure) :
    settingsAt s (saveSettings s output ⟨settingsAt s s.files path, some path⟩ new).files path =
      { settingsAt s s.files path with subtitles := new } := by
  set store : SettingsStore := ⟨settingsAt s s.files path, some path⟩
  have hpath : store.path = some path := rfl
  unfold saveSettings at hexit ⊢
  simp only [hpath] at hexit ⊢
  rcases store.update_cases s.files new with ⟨hsame, hupdate⟩ | ⟨-, tree, cause, -, hupdate⟩ |
    ⟨-, tree, hsave, hupdate⟩
  · rw [hupdate, hsame.eq hdirectory]
  · rw [hupdate] at hexit
    exact absurd rfl hexit
  · rw [hupdate]
    exact Settings.load_of_read (SettingsStore.read_of_persist hpath hsave) _

/-- A size of zero is refused before anything is saved. -/
theorem configure_setSize_zero {output : Output} :
    configure s given output (.setSize 0) =
      failure s output "Subtitle size must be positive" .invalidArguments := rfl

/-- A command that is allowed saves what it has changed. -/
theorem configure_of_changed (hpath : configPath? s given = some path) {output : Output}
    (command : ConfigCommand) {new : SubtitleSettings} (hshow : command ≠ .show)
    (hchanged : changed? command (settingsAt s s.files path).subtitles = some new) :
    configure s given output command =
      saveSettings s output ⟨settingsAt s s.files path, some path⟩ new := by
  unfold configure
  simp only [openSettings_eq hpath, hchanged]

/-- **After a command whose save succeeds, the settings are those that it asks for.** -/
theorem load_configure (hpath : configPath? s given = some path) {output : Output}
    {command : ConfigCommand} (hexit : (configure s given output command).exit ≠ .failure) :
    settingsAt s (configure s given output command).files path =
      command.asked (settingsAt s s.files path) := by
  cases command with
  | «show» => rfl
  | setLanguage code =>
    rw [configure_of_changed hpath (.setLanguage code) nofun rfl] at hexit ⊢
    exact load_saveSettings rfl hexit
  | disable =>
    rw [configure_of_changed hpath .disable nofun rfl] at hexit ⊢
    exact load_saveSettings rfl hexit
  | setSize size =>
    by_cases hzero : size = 0
    · rw [hzero, configure_setSize_zero]
      rfl
    · rw [configure_of_changed hpath (.setSize size) nofun (if_neg hzero)] at hexit ⊢
      rw [ConfigCommand.asked, if_neg hzero]
      exact load_saveSettings rfl hexit

/-! ## Many commands -/

theorem configureAll_append (s : Surroundings) (before after : List (Output × ConfigCommand)) :
    (configureAll s given (before ++ after)).2 =
      (configureAll { s with files := (configureAll s given before).2 } given after).2 := by
  induction before generalizing s with
  | nil => rfl
  | cons step before ih => exact ih { s with files := (configure s given step.1 step.2).files }

/-- **Commands change what they name and nothing else.** -/
theorem load_configureAll {commands : List (Output × ConfigCommand)}
    (hpath : configPath? s given = some path)
    (hsaved : ExitCode.failure ∉ (configureAll s given commands).1) :
    settingsAt s (configureAll s given commands).2 path =
        (commands.map Prod.snd).foldl (fun settings command => command.asked settings)
          (settingsAt s s.files path) ∧
      ∀ before output command after, commands = before ++ (output, command) :: after →
        command = .show ∨ command = .setSize 0 →
        (configureAll s given (before ++ [(output, command)])).2 =
          (configureAll s given before).2 := by
  constructor
  · induction commands generalizing s with
    | nil => rfl
    | cons step commands ih =>
      obtain ⟨output, command⟩ := step
      obtain ⟨hfirst, hrest⟩ := not_or.1 (List.mem_cons.not.1 hsaved)
      set next : Surroundings := { s with files := (configure s given output command).files }
      have hnext : settingsAt next next.files path = command.asked (settingsAt s s.files path) :=
        load_configure hpath (Ne.symm hfirst)
      have hlast := ih (s := next) hpath hrest
      rwa [hnext] at hlast
  · rintro before output command after - (rfl | rfl)
    · exact configureAll_append s before _
    · exact configureAll_append s before _

/-- Surroundings in which the settings cannot be read: a string is not closed. -/
def withUnreadableSettings : Surroundings :=
  bareSurroundings ⟨some "/home", none, none, none⟩
    ⟨[(["settings.toml"], .file (Text.Utf8.encode "[player]\npreferred = \"mpv".toList))], []⟩ false

/-- The first size is refused, so the file is still unreadable when the language is set. -/
theorem load_configureAll_unreadable :
    let output : Output := ⟨true, false⟩
    let commands := [(output, .setSize 0), (output, .show), (output, .setLanguage "\"en\"\n"),
      (output, .disable), (output, .setLanguage "ger"), (output, .setSize 40)]
    let start := withUnreadableSettings
    let final := configureAll start (some "/settings.toml") commands
    settingsAt start start.files "/settings.toml" = defaultSettings start ∧
      final.1 = [.invalidArguments, .success, .success, .success, .success, .success] ∧
      settingsAt start final.2 "/settings.toml" =
        ⟨{ (defaultSettings start).subtitles with
            defaultLanguage := some "ger", fontSize := 40 }, none⟩ ∧
      (configureAll start (some "/settings.toml") [(output, .setSize 0)]).2 = start.files := by
  intro output commands start final
  have hstart : settingsAt start start.files "/settings.toml" = defaultSettings start := by
    decide +kernel
  have hexits : final.1 =
      [.invalidArguments, .success, .success, .success, .success, .success] := by
    decide +kernel
  have hsaved : ExitCode.failure ∉ final.1 := by
    rw [hexits]
    decide
  have hpath : configPath? start (some "/settings.toml") = some "/settings.toml" := rfl
  obtain ⟨hload, hkept⟩ := load_configureAll hpath hsaved
  refine ⟨hstart, hexits, hload.trans ?_, hkept [] output (.setSize 0) _ rfl (.inr rfl)⟩
  rw [hstart]
  decide +kernel

end Program

end Subtitler
