import Mathlib.Tactic.SplitIfs
import Subtitler.Manager.Hub
import Subtitler.Proofs.Manager.State
import Subtitler.Proofs.Settings.Updates

/-!
# The settings of the manager

Of the settings the manager takes over two, the language as its preference and the size. Only calls
change them, each one of them (`settings_call`).

A value that is *followed* is stated by the settings of a store, told by the announcements of a
change and asked for by calls; the last announcement that tells it decides (`latest`). What an
update announces is exactly what it changes (`stated_update`).
-/

namespace Subtitler

/-! ## What the manager keeps -/

namespace Manager

/-- What the manager takes over from the settings. -/
def settings (m : Manager) : Preference × UInt32 := (m.preference, m.size)

section Settings

variable (answers : Answers) (run : Run Manager)

theorem settings_applySelection (track : Track) :
    (applySelection answers track run).state.settings = run.state.settings := by
  unfold applySelection beginSelection
  split_ifs <;> simp [settings]

theorem settings_playbackStarted (request : PlayRequest) :
    (playbackStarted answers request run).state.settings = run.state.settings := by
  unfold playbackStarted
  rw [settings_applySelection]
  split_ifs <;> simp [settings]

theorem settings_playbackStopped :
    (playbackStopped answers run).state.settings = run.state.settings := by
  unfold playbackStopped
  split_ifs <;> simp [settings, render, Run.within]

theorem settings_setPlayer (player : Option AttachedPlayer) :
    (setPlayer answers player run).state.settings = run.state.settings :=
  setPlayer_invariant answers run (I := fun r => r.state.settings = run.state.settings) player rfl
    (fun _ _ h => h) (fun _ h => h)

theorem settings_setPreference (preference : Preference) :
    (setPreference answers preference run).state.settings = (preference, run.state.size) := by
  unfold setPreference
  dsimp only
  split_ifs
  · rw [settings_applySelection]
    rfl
  · rfl

theorem settings_setSize (size : UInt32) :
    (setSize size run).state.settings = (run.state.preference, size) := by
  unfold setSize
  split_ifs with h
  · rw [← h]
    rfl
  · rfl

theorem settings_complete (completion : Completion) :
    (complete answers completion run).state.settings = run.state.settings := by
  unfold complete
  split_ifs
  · cases completion with
    | fetched epoch result =>
      cases result <;> simp [fetchCompleted, settings, Run.log, Run.notify, render, Run.within]
    | picked epoch track =>
      dsimp only [pickCompleted]
      split <;> simp [settings]
  · rfl

/-- Only the calls that ask for it change the preference or the size. -/
theorem settings_call (call : ManagerCall) : (Manager.call answers call run).state.settings =
    match call with
    | .setPreference preference => (preference, run.state.size)
    | .setSize size => (run.state.preference, size)
    | _ => run.state.settings := by
  cases call with
  | playbackStarted request => exact settings_playbackStarted answers run request
  | playbackStopped => exact settings_playbackStopped answers run
  | select track => exact settings_applySelection answers run track
  | setPlayer player => exact settings_setPlayer answers run player
  | setPreference preference => exact settings_setPreference answers run preference
  | setOffset offset => rfl
  | setSize size => exact settings_setSize run size

theorem settings_hear (event : BusEvent) :
    (hear answers event run).state.settings = run.state.settings := by
  cases event with
  | playbackStarted request => exact settings_playbackStarted answers run request
  | playbackStopped => exact settings_playbackStopped answers run
  | errorNotification => rfl

end Settings

end Manager

/-- Whether a message asks for another preference or size. -/
def Message.asksSettings : Message → Bool
  | .call (.setPreference _) | .call (.setSize _) => true
  | _ => false

/-! ## What is followed -/

/-- A value that the manager holds and takes over from one of the settings: it is stated by the
settings, told by announcements, and asked for by calls. -/
structure Followed (α : Type) where
  setting : SettingName
  stated : SubtitleSettings → α
  asked? : ManagerCall → Option α
  held : Manager → α
  agree : ∀ a b, SubtitleSettings.agreeOn a b setting = true → stated a = stated b
  forward : ∀ a, (Announcement.call? a).bind asked? =
    if a.setting = setting then some (stated a.settings) else none
  beside : ∀ call, (Message.call call).asksSettings = false → asked? call = none
  handle : ∀ answers run call,
    held (Manager.call answers call run).state = (asked? call).getD (held run.state)
  keep : ∀ {m m' : Manager}, m.settings = m'.settings → held m = held m'

namespace Followed

/-- The preference follows the default language. -/
def preference : Followed Preference where
  setting := .defaultLanguage
  stated := SubtitleSettings.preference
  asked?
    | .setPreference preference => some preference
    | _ => none
  held := Manager.preference
  agree a b h := by
    have hlanguage : a.defaultLanguage = b.defaultLanguage := by
      simpa [SubtitleSettings.agreeOn] using h
    rw [SubtitleSettings.preference, hlanguage, SubtitleSettings.preference]
  forward a := by cases h : a.setting <;> simp [Announcement.call?, h]
  beside call h := by cases call <;> first | rfl | cases h
  handle answers run call := by
    have hsettings := congrArg Prod.fst (Manager.settings_call answers run call)
    cases call <;> exact hsettings
  keep h := congrArg Prod.fst h

/-- The size follows the size of the font. -/
def size : Followed UInt32 where
  setting := .fontSize
  stated := SubtitleSettings.fontSize
  asked?
    | .setSize size => some size
    | _ => none
  held := Manager.size
  agree a b h := by simpa [SubtitleSettings.agreeOn] using h
  forward a := by cases h : a.setting <;> simp [Announcement.call?, h]
  beside call h := by cases call <;> first | rfl | cases h
  handle answers run call := by
    have hsettings := congrArg Prod.snd (Manager.settings_call answers run call)
    cases call <;> exact hsettings
  keep h := congrArg Prod.snd h

variable {α : Type} (w : Followed α)

/-- The value that an announcement tells. -/
def told? (a : Announcement) : Option α :=
  if a.setting = w.setting then some (w.stated a.settings) else none

/-- The value after some announcements: the last one that tells it decides. -/
def latest (value : α) (announcements : List Announcement) : α :=
  announcements.foldl (fun value a => (w.told? a).getD value) value

/-- The value that the manager will hold when it has taken the calls that wait. -/
def coming (hub : Hub) : α :=
  hub.calls.foldl (fun value call => (w.asked? call).getD value) (w.held hub.run.state)

theorem latest_append (value : α) (first rest : List Announcement) :
    w.latest value (first ++ rest) = w.latest (w.latest value first) rest := List.foldl_append

/-- Announcements of one change: they tell the value if it is among what has changed. -/
theorem latest_changes (value : α) (names : List SettingName) (new : SubtitleSettings) :
    w.latest value (names.map fun name => ⟨name, new⟩) =
      if w.setting ∈ names then w.stated new else value := by
  induction names generalizing value with
  | nil => rfl
  | cons name names ih =>
    have hstep : w.latest value ((name :: names).map fun name => ⟨name, new⟩) =
        w.latest ((w.told? ⟨name, new⟩).getD value) (names.map fun name => ⟨name, new⟩) := rfl
    rw [hstep, ih]
    by_cases hname : name = w.setting
    · simp [told?, hname]
    · simp [told?, hname, Ne.symm hname]

end Followed

/-! ## Updates -/

namespace SettingsStore

/-- **What an update announces is what it changes.** -/
theorem stated_update {α : Type} (w : Followed α) (store : SettingsStore) (tree : FileTree)
    (new : SubtitleSettings) :
    w.stated (store.update tree new).store.settings.subtitles =
      w.latest (w.stated store.settings.subtitles) (store.update tree new).announcements := by
  have hmem : w.setting ∈ new.differences store.settings.subtitles ↔
      new.agreeOn store.settings.subtitles w.setting = false := by
    have hall : w.setting ∈ SettingName.all := by cases w.setting <;> decide
    simp [SubtitleSettings.differences, hall]
  rcases store.update_cases tree new with ⟨-, hupdate⟩ | ⟨-, tree', cause, -, hupdate⟩ |
    ⟨-, tree', -, hupdate⟩
  · rw [hupdate]
    rfl
  · rw [hupdate]
    rfl
  · rw [hupdate]
    dsimp only [Update.announcements]
    rw [w.latest_changes]
    split_ifs with hchanged
    · rfl
    · exact w.agree new _ (by simpa using mt hmem.2 hchanged)

end SettingsStore

end Subtitler
