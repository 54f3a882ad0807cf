import Mathlib.Tactic.MkIffOfInductiveProp
import Mathlib.Tactic.SplitIfs
import Subtitler.Proofs.Settings.RoundTrip
import Subtitler.Settings.Store

/-!
# Updates of the settings

An update does one of three things (`update_cases`): nothing, because the settings are the same; it
fails to save them, and keeps the store; or it saves them, takes them over and announces what
differs. The settings are the same if they agree in everything that is announced
(`differences_eq_nil_iff`).

**Theorem (`update_exact`).** Whatever calls came before, and whatever has become of the files
since, every call is of one of these kinds; the store keeps the path and the player that it started
with.

If nothing else changes the file, it says what the store says after every update, whether or not its
save fails (`InStep.afterAll`).
-/

namespace Subtitler

/-! ## Settings that differ -/

namespace SubtitleSettings

/-- The same settings; the directory may be spelled in another way. -/
@[mk_iff]
structure Same (a b : SubtitleSettings) : Prop where
  defaultLanguage : a.defaultLanguage = b.defaultLanguage
  fontFamily : a.fontFamily = b.fontFamily
  fontSize : a.fontSize = b.fontSize
  decoration : a.decoration = b.decoration
  bold : a.bold = b.bold
  directory : Path.same a.directory b.directory = true
  autoCleaning : a.autoCleaning = b.autoCleaning

variable {new old : SubtitleSettings}

theorem differences_eq_nil_iff : new.differences old = [] ↔ new.Same old := by
  rw [differences, List.filter_eq_nil_iff, same_iff]
  simp [SettingName.all, agreeOn]

/-- The announcement of a setting, by its name, if it differs. -/
def toldIf (differs : Bool) (name : String) (new : SubtitleSettings) :
    List (String × SubtitleSettings) :=
  if differs then [(name, new)] else []

theorem map_filter_cons {α β : Type} (p : α → Bool) (f : α → β) (a : α) (l : List α) :
    ((a :: l).filter p).map f = (if p a then [f a] else []) ++ (l.filter p).map f := by
  rw [List.filter_cons]
  split_ifs <;> rfl

/-- What differs is told once and in a fixed order. -/
theorem map_differences :
    (new.differences old).map (fun setting => (setting.text, new)) =
      toldIf (new.defaultLanguage != old.defaultLanguage) "default_language" new ++
      toldIf (new.fontFamily != old.fontFamily) "font_family" new ++
      toldIf (new.fontSize != old.fontSize) "font_size" new ++
      toldIf (new.decoration != old.decoration) "decoration" new ++
      toldIf (new.bold != old.bold) "bold" new ++
      toldIf (!Path.same new.directory old.directory) "directory" new ++
      toldIf (new.autoCleaning != old.autoCleaning) "auto_cleaning_enabled" new := by
  simp only [differences, SettingName.all, map_filter_cons, agreeOn, SettingName.text, toldIf,
    List.filter_nil, List.map_nil, List.append_nil, List.append_assoc, bne]

end SubtitleSettings

/-! ## One update -/

namespace SettingsStore

variable {store : SettingsStore} {tree : FileTree} {new : SubtitleSettings}

/-- What an update has to announce. Nothing, if it fails. -/
def Update.announcements (update : Update) : List Announcement :=
  match update.result with
  | .ok announcements => announcements
  | .error _ => []

/-- The settings that an update asks for. -/
def updated (store : SettingsStore) (new : SubtitleSettings) : Settings :=
  { store.settings with subtitles := new }

theorem update_cases (store : SettingsStore) (tree : FileTree) (new : SubtitleSettings) :
    (new.Same store.settings.subtitles ∧ store.update tree new = ⟨store, tree, .ok []⟩) ∨
      (¬new.Same store.settings.subtitles ∧ ∃ tree' cause,
        store.persist tree (store.updated new) = (tree', .error cause) ∧
          store.update tree new = ⟨store, tree', .error cause⟩) ∨
      (¬new.Same store.settings.subtitles ∧ ∃ tree',
        store.persist tree (store.updated new) = (tree', .ok ()) ∧
          store.update tree new = ⟨{ store with settings := store.updated new }, tree',
            .ok ((new.differences store.settings.subtitles).map fun name => ⟨name, new⟩)⟩) := by
  rw [← SubtitleSettings.differences_eq_nil_iff, ← List.isEmpty_iff]
  unfold update
  dsimp only
  split_ifs with hsame
  · exact .inl ⟨hsame, rfl⟩
  · right
    rcases hpersist : store.persist tree (store.updated new) with ⟨tree', cause | ⟨⟨⟩⟩⟩
    · refine .inl ⟨hsame, tree', cause, rfl, ?_⟩
      rw [updated] at hpersist
      rw [hpersist]
    · refine .inr ⟨hsame, tree', rfl, ?_⟩
      rw [updated] at hpersist
      rw [hpersist, updated]

/-- Only a store with a path can fail to save. -/
theorem persist_eq_error_iff {settings : Settings} {cause : FileError} :
    (store.persist tree settings).2 = .error cause ↔
      ∃ path ∈ store.path, (settings.save tree path).2 = .error cause := by
  rw [persist]
  cases store.path with
  | none => simp
  | some path => simp

/-- An update fails only if the settings differ and cannot be saved. -/
theorem result_eq_error_iff {cause : FileError} : (store.update tree new).result = .error cause ↔
    ¬new.Same store.settings.subtitles ∧
      (store.persist tree (store.updated new)).2 = .error cause := by
  rcases store.update_cases tree new with ⟨hsame, hupdate⟩ |
    ⟨hdiffer, tree', other, hsave, hupdate⟩ | ⟨hdiffer, tree', hsave, hupdate⟩
  · rw [hupdate]
    exact ⟨nofun, fun h => absurd hsame h.1⟩
  · rw [hupdate, hsave]
    constructor
    · rintro ⟨⟩
      exact ⟨hdiffer, rfl⟩
    · rintro ⟨-, ⟨⟩⟩
      rfl
  · rw [hupdate, hsave]
    exact ⟨nofun, fun h => nomatch h.2⟩

theorem persist_eq {path : String} (hpath : store.path = some path) (settings : Settings) :
    store.persist tree settings = settings.save tree path := by
  simp only [persist, hpath]

/-- Settings that were saved are found where the store keeps them. -/
theorem read_of_persist {settings : Settings} {tree' : FileTree} {path : String}
    (hpath : store.path = some path) (h : store.persist tree settings = (tree', .ok ())) :
    tree'.read path = .ok (Text.Utf8.encode settings.toText) := by
  rw [persist_eq hpath] at h
  have hread := Settings.read_save (congrArg Prod.snd h)
  rwa [h] at hread

/-! ## Many updates -/

/-- A call: the files that it finds, and the settings that it asks for. -/
structure Call where
  tree : FileTree
  new : SubtitleSettings

/-- The store after some calls. -/
def after (store : SettingsStore) (calls : List Call) : SettingsStore :=
  calls.foldl (fun store call => (store.update call.tree call.new).store) store

/-- Updates change nothing but the settings for subtitles. -/
theorem keeps_update (store : SettingsStore) (tree : FileTree) (new : SubtitleSettings) :
    (store.update tree new).store.path = store.path ∧
      (store.update tree new).store.settings.player = store.settings.player := by
  rcases store.update_cases tree new with ⟨-, hupdate⟩ | ⟨-, tree', cause, -, hupdate⟩ |
    ⟨-, tree', -, hupdate⟩
  all_goals
    rw [hupdate]
    exact ⟨rfl, rfl⟩

theorem keeps_after (store : SettingsStore) (calls : List Call) :
    (store.after calls).path = store.path ∧
      (store.after calls).settings.player = store.settings.player := by
  induction calls generalizing store with
  | nil => exact ⟨rfl, rfl⟩
  | cons call calls ih =>
    obtain ⟨hpath, hplayer⟩ := ih (store.update call.tree call.new).store
    obtain ⟨hpath', hplayer'⟩ := store.keeps_update call.tree call.new
    exact ⟨hpath.trans hpath', hplayer.trans hplayer'⟩

open SubtitleSettings in
/-- **Updates are whole, saved and announced.** -/
theorem update_exact (store : SettingsStore) (earlier : List Call) (call : Call) :
    let before := store.after earlier
    let old := before.settings.subtitles
    let new := call.new
    let update := before.update call.tree new
    (∀ cause, update.result = .error cause ↔ ¬new.Same old ∧ ∃ path ∈ store.path,
        (Settings.save ⟨new, store.settings.player⟩ call.tree path).2 = .error cause) ∧
      (∀ cause, update.result = .error cause → update.store = before ∧ update.announcements = []) ∧
      (new.Same old → update.store = before ∧ update.tree = call.tree ∧ update.result = .ok []) ∧
      (¬new.Same old → ∀ announced, update.result = .ok announced →
        update.store = ⟨⟨new, store.settings.player⟩, store.path⟩ ∧
        (∀ path ∈ store.path, ∀ directory,
          Settings.load (.default directory) update.tree path = update.store.settings) ∧
        announced.map (fun a => (a.setting.text, a.settings)) =
          toldIf (new.defaultLanguage != old.defaultLanguage) "default_language" new ++
          toldIf (new.fontFamily != old.fontFamily) "font_family" new ++
          toldIf (new.fontSize != old.fontSize) "font_size" new ++
          toldIf (new.decoration != old.decoration) "decoration" new ++
          toldIf (new.bold != old.bold) "bold" new ++
          toldIf (!Path.same new.directory old.directory) "directory" new ++
          toldIf (new.autoCleaning != old.autoCleaning) "auto_cleaning_enabled" new) := by
  intro before old new update
  obtain ⟨hpath, hplayer⟩ := store.keeps_after earlier
  refine ⟨fun cause => ?_, ?_⟩
  · rw [result_eq_error_iff, persist_eq_error_iff, updated, hplayer, hpath]
  rcases before.update_cases call.tree new with ⟨hsame, hupdate⟩ |
    ⟨hdiffer, tree, cause, hsave, hupdate⟩ | ⟨hdiffer, tree, hsave, hupdate⟩
  · have hresult : update = ⟨before, call.tree, .ok []⟩ := hupdate
    rw [hresult]
    exact ⟨nofun, fun _ => ⟨rfl, rfl, rfl⟩, fun h => absurd hsame h⟩
  · have hresult : update = ⟨before, tree, .error cause⟩ := hupdate
    rw [hresult]
    exact ⟨fun _ _ => ⟨rfl, rfl⟩, fun h => absurd h hdiffer, fun _ => nofun⟩
  · have hresult : update = _ := hupdate
    rw [hresult]
    refine ⟨nofun, fun h => absurd h hdiffer, ?_⟩
    rintro - announced ⟨⟩
    refine ⟨?_, ?_, ?_⟩
    · rw [updated, hplayer, hpath]
    · intro path hmem directory
      have hread := read_of_persist (hpath.trans (Option.mem_def.1 hmem)) hsave
      exact Settings.load_of_read hread directory
    · rw [List.map_map]
      exact map_differences

/-- A store with the settings of a user who has chosen a player only. -/
def sampleStore : SettingsStore := ⟨⟨.default "/subtitles", some "mpv"⟩, some "/settings.toml"⟩

/-- Larger subtitles in another language, from another directory. -/
def sampleSettings : SubtitleSettings :=
  { SubtitleSettings.default "/other" with fontSize := 40, defaultLanguage := some "eng" }

/-- A call that finds a directory where the settings should go. -/
def sampleFailure : Call := ⟨⟨[(["settings.toml"], .directory)], []⟩, sampleSettings⟩

theorem update_exact_sampleStore :
    let again := sampleStore.after [sampleFailure]
    let update := again.update ⟨[], []⟩ sampleSettings
    (sampleStore.update sampleFailure.tree sampleSettings).result = .error .isDirectory ∧
      again = sampleStore ∧
      Settings.load (.default "/tmp") update.tree "/settings.toml" = update.store.settings ∧
      update.store.settings = ⟨sampleSettings, some "mpv"⟩ ∧
      update.announcements.map (fun a => (a.setting.text, a.settings)) =
        [("default_language", sampleSettings), ("font_size", sampleSettings),
          ("directory", sampleSettings)] := by
  intro again update
  have hfailed : (sampleStore.update sampleFailure.tree sampleSettings).result =
      .error .isDirectory := by
    decide +kernel
  have hagain : again = sampleStore :=
    ((update_exact sampleStore [] sampleFailure).2.1 .isDirectory hfailed).1
  have hdiffer : ¬sampleSettings.Same again.settings.subtitles := by
    rw [hagain]
    exact fun hsame => absurd hsame.fontSize (by decide)
  have hmade : update.result = .ok update.announcements := by
    decide +kernel
  obtain ⟨-, -, -, hupdate⟩ := update_exact sampleStore [sampleFailure] ⟨⟨[], []⟩, sampleSettings⟩
  obtain ⟨hstore, hload, htold⟩ := hupdate hdiffer _ hmade
  refine ⟨hfailed, hagain, hload _ rfl "/tmp", congrArg SettingsStore.settings hstore, ?_⟩
  rw [htold]
  decide +kernel

/-! ## The file keeps up -/

/-- The file of a store says what the store says. -/
def InStep (store : SettingsStore) (tree : FileTree) : Prop :=
  ∀ path ∈ store.path, tree.read path = .ok (Text.Utf8.encode store.settings.toText)

theorem InStep.load (h : store.InStep tree) {path : String} (hpath : store.path = some path)
    (directory : String) : Settings.load (.default directory) tree path = store.settings :=
  Settings.load_of_read (h path hpath) directory

/-- A save that fails leaves the file as it was, so the file is in step after every update. -/
theorem InStep.update (h : store.InStep tree) (new : SubtitleSettings) :
    (store.update tree new).store.InStep (store.update tree new).tree := by
  rcases store.update_cases tree new with ⟨-, hupdate⟩ | ⟨-, tree', cause, hsave, hupdate⟩ |
    ⟨-, tree', hsave, hupdate⟩
  · rw [hupdate]
    exact h
  · rw [hupdate]
    intro path hpath
    rw [persist_eq hpath, Settings.save] at hsave
    have hkeeps := tree.keeps_writeBelow path (Text.Utf8.encode (store.updated new).toText)
    have hfiles := FileTree.file?_writeBelow_error (congrArg Prod.snd hsave)
    rw [hsave] at hkeeps hfiles
    refine FileTree.read_of_keeps hkeeps (fun loc content hfile => ?_) (h path hpath)
    rw [hfiles, hfile]
  · rw [hupdate]
    exact fun path hpath => read_of_persist hpath hsave

/-- The store and its files after some updates, if nothing else changes the files. -/
def afterAll (store : SettingsStore) (tree : FileTree) (news : List SubtitleSettings) :
    SettingsStore × FileTree :=
  news.foldl (fun now new => ((now.1.update now.2 new).store, (now.1.update now.2 new).tree))
    (store, tree)

/-- **The file keeps up with the store**, whatever saves fail in between. -/
theorem InStep.afterAll (h : store.InStep tree) (news : List SubtitleSettings) :
    (store.afterAll tree news).1.InStep (store.afterAll tree news).2 := by
  induction news generalizing store tree with
  | nil => exact h
  | cons new news ih => exact ih (h.update new)

end SettingsStore

end Subtitler
