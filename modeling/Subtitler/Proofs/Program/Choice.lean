import Subtitler.Program.Play
import Subtitler.Proofs.CommandLine.Levels
import Subtitler.Proofs.Manager.Settling

/-!
# The choice of subtitles

A command line can turn subtitles off, ask for a file of the user's own, or name a language, but
only one of these (`PlayCommand.OneChoice`). Without any of them the settings decide.

**Theorem (`play_choice`).** The calls that the program makes for a command bring the manager to
what the command says (`Honours`), whatever the settings are and whatever tracks are available:

- subtitles that are turned off stay off, and nothing is started;
- a file of the user's own is asked for once, also if the settings disable subtitles;
- of a language, the first track that is available is selected, also if the settings disable
  subtitles or prefer another language;
- without a choice, the same holds of the language in the settings.

This holds at every moment from the last of these calls to the first one after them, whatever
operations have ended meanwhile. A track that cannot be fetched is given up: then there are no
subtitles any more.
-/

namespace Subtitler

open CommandLine

/-! ## The first track of a language -/

/-- The first of the available tracks that is of exactly the given language, or the one without
subtitles if there is none. -/
inductive Track.FirstOf (available : List Track) (code : String) : Track → Prop
  | found {before after : List Track} {track : Track} (h : available = before ++ track :: after)
      (hcode : track.language? = some code)
      (hbefore : ∀ other ∈ before, other.language? ≠ some code) : FirstOf available code track
  | absent (h : ∀ other ∈ available, other.language? ≠ some code) : FirstOf available code .none

theorem Track.firstOf_ofLanguage (available : List Track) (code : String) :
    FirstOf available code (ofLanguage available code) := by
  unfold ofLanguage
  cases hfind : available.find? (·.language? == some code) with
  | none => exact .absent (by simpa using hfind)
  | some track =>
    obtain ⟨hcode, before, after, h, hbefore⟩ := List.find?_eq_some_iff_append.1 hfind
    exact .found h (by simpa using hcode) (by simpa using hbefore)

theorem Track.FirstOf.needsPick {available : List Track} {code : String} {track : Track}
    (h : FirstOf available code track) : track.needsPick = false := by
  cases h with
  | absent => rfl
  | found _ hcode =>
    cases track with
    | custom => cases hcode
    | _ => rfl

namespace Manager

/-- A track is selected as long as fetching it has not failed. After that there are no subtitles. -/
structure Selects (run : Run Manager) (track : Track) : Prop where
  selected : reasons run = [] → run.state.session.selection = some track
  lost : reasons run ≠ [] → run.state.session.selection = some .none

theorem Chose.selects {run : Run Manager} {track : Track} (h : Chose run track)
    (hp : track.needsPick = false) : Selects run track := by
  cases h with
  | off hs _ _ hr | found _ _ hs _ hr => exact ⟨fun _ => hs, fun h => absurd hr h⟩
  | own => cases hp
  | lost _ _ hs _ hr => exact ⟨fun h => absurd h hr, fun _ => hs⟩

theorem Chose.none {run : Run Manager} (h : Chose run .none) :
    run.state.session.selection = some .none ∧ (ledger run).started = [] := by
  cases h with
  | off hs _ hl _ => exact ⟨hs, hl⟩
  | found hn | lost hn => cases hn

theorem Chose.custom {run : Run Manager} (h : Chose run (.custom [])) :
    (ledger run).started.countP (·.operation = .pick) = 1 := by
  cases h with
  | own hl hpick hothers =>
    rw [hl, List.countP_cons_of_pos (by simpa using hpick), Nat.add_eq_right, List.countP_eq_zero]
    simpa using hothers
  | found _ hp | lost _ hp => cases hp

end Manager

namespace Program

open Manager

variable {command : PlayCommand} {store : SettingsStore} {available : List Track}
  {player : AttachedPlayer} {answers : Answers} {run : Run Manager}

/-- The calls for a command, until the player ends. -/
def sentCalls (command : PlayCommand) (store : SettingsStore) (available : List Track)
    (player : AttachedPlayer) : List ManagerCall :=
  .setSize store.settings.subtitles.fontSize ::
    openingCalls command (preferenceFor command store) available player

/-- The track that is selected by these calls. -/
def chosenTrack (command : PlayCommand) (store : SettingsStore) (available : List Track) : Track :=
  if command.custom && preferenceFor command store = .disabled then .custom []
  else (preferenceFor command store).resolve (requestFor command available)

theorem resolve_disabled (request : PlayRequest) : Preference.disabled.resolve request = .none := by
  unfold Preference.resolve
  split_ifs <;> rfl

theorem chose_of_offset {track : Track} {offset : Int} {run₁ : Run Manager}
    (h : Leads answers (if offset = 0 then [] else [.setOffset offset]) run₁ run)
    (hchose : Chose run₁ track) : Chose run track := by
  split_ifs at h
  · exact h.keep (lasting_chose track) hchose
  · obtain ⟨run₂, hchose, h⟩ := h.next (lasting_chose track) hchose
    exact h.keep (lasting_chose track) (hchose.setOffset offset)

/-- Whatever operations end in the course of the calls, the manager goes by the chosen track. -/
theorem chose_of_leads
    (h : Leads answers (sentCalls command store available player)
      (fresh (preferenceFor command store)) run) :
    Chose run (chosenTrack command store available) := by
  obtain ⟨run₁, h₁, h⟩ := h.next lasting_untouched untouched_fresh
  obtain ⟨run₂, h₂, h⟩ := h.next lasting_untouched (h₁.setSize _)
  obtain ⟨run₃, h₃, h⟩ := h.next lasting_untouched (h₂.setPlayer _)
  have hstart : Chose (playbackStarted answers (requestFor command available) run₃) _ :=
    h₃.playbackStarted (requestFor command available)
  unfold chosenTrack
  by_cases hcustom : (command.custom && preferenceFor command store = .disabled) = true
  · rw [if_pos hcustom] at h ⊢
    simp only [Bool.and_eq_true, decide_eq_true_eq] at hcustom
    rw [hcustom.2, resolve_disabled] at hstart
    obtain ⟨run₄, h₄, h⟩ := h.next (lasting_chose .none) hstart
    exact chose_of_offset h (h₄.select (.custom []))
  · rw [if_neg hcustom] at h ⊢
    exact chose_of_offset h hstart

/-! ## What the command says -/

/-- The manager does what a command says about subtitles, or else what the settings say. -/
structure Honours (command : PlayCommand) (settings : SubtitleSettings) (available : List Track)
    (run : Run Manager) : Prop where
  noSubtitles : command.noSubtitles = true →
    run.state.session.selection = some .none ∧ (ledger run).started = []
  custom : command.custom = true → (ledger run).started.countP (·.operation = .pick) = 1
  lang : ∀ code, command.lang = some code →
    ∃ track, Track.FirstOf available code track ∧ Selects run track
  otherwise : command.noSubtitles = false → command.custom = false → command.lang = none →
    ∃ track, Selects run track ∧
      match settings.defaultLanguage with
      | some code => Track.FirstOf available code track
      | none => track = .none

theorem chosenTrack_of_custom (hcustom : command.custom = true)
    (hon : command.noSubtitles = false) : chosenTrack command store available = .custom [] := by
  unfold chosenTrack
  cases preferenceFor command store <;> simp [hcustom, hon, Preference.resolve, requestFor]

theorem chosenTrack_of_noSubtitles (hcustom : command.custom = false)
    (hoff : command.noSubtitles = true) : chosenTrack command store available = .none := by
  simp [chosenTrack, hcustom, hoff, Preference.resolve, requestFor]

theorem chosenTrack_of_disabled (hcustom : command.custom = false)
    (h : preferenceFor command store = .disabled) :
    chosenTrack command store available = .none := by
  simp [chosenTrack, hcustom, h, resolve_disabled]

theorem chosenTrack_of_language (hcustom : command.custom = false)
    (hon : command.noSubtitles = false) {code : String}
    (h : preferenceFor command store = .language code) :
    chosenTrack command store available = .ofLanguage available code := by
  simp [chosenTrack, hcustom, hon, h, Preference.resolve, requestFor]

/-- A command that names no language leaves the preference to the settings. -/
theorem preferenceFor_eq (h : command.lang = none) :
    preferenceFor command store = .ofLanguage store.settings.subtitles.defaultLanguage := by
  rw [preferenceFor, h]
  rfl

theorem honours_of_leads (hchoice : command.OneChoice)
    (h : Leads answers (sentCalls command store available player)
      (fresh (preferenceFor command store)) run) :
    Honours command store.settings.subtitles available run := by
  have hchose := chose_of_leads h
  have hfirst : ∀ {code}, chosenTrack command store available = .ofLanguage available code →
      ∃ track, Track.FirstOf available code track ∧ Selects run track := by
    intro code heq
    have hof := Track.firstOf_ofLanguage available code
    exact ⟨_, hof, (heq ▸ hchose).selects hof.needsPick⟩
  constructor
  case noSubtitles =>
    intro hoff
    rw [chosenTrack_of_noSubtitles (hchoice.noSubtitles hoff) hoff] at hchose
    exact hchose.none
  case custom =>
    intro hcustom
    have hon : command.noSubtitles = false := by
      rw [← Bool.not_eq_true]
      intro hoff
      rw [hchoice.noSubtitles hoff] at hcustom
      cases hcustom
    rw [chosenTrack_of_custom hcustom hon] at hchose
    exact hchose.custom
  case lang =>
    intro code hlang
    obtain ⟨hon, hcustom⟩ := hchoice.lang (by rw [hlang]; rfl)
    exact hfirst (chosenTrack_of_language hcustom hon (by rw [preferenceFor, hlang]))
  case otherwise =>
    intro hon hcustom hlang
    have hpreference := @preferenceFor_eq _ store hlang
    cases hdefault : store.settings.subtitles.defaultLanguage with
    | some code =>
      rw [hdefault] at hpreference
      obtain ⟨track, hof, hselects⟩ := hfirst (chosenTrack_of_language hcustom hon hpreference)
      exact ⟨track, hselects, hof⟩
    | none =>
      rw [hdefault] at hpreference
      rw [chosenTrack_of_disabled hcustom hpreference] at hchose
      exact ⟨.none, hchose.selects rfl, rfl⟩

/-- **The choice of the user comes first.** Whatever the settings are and whatever tracks are
available, the calls for a command that was read bring the manager to what the command says. -/
theorem play_choice {words : List String} {invocation : Invocation} {command : PlayCommand}
    (hparse : parse words = .ok invocation) (hplay : invocation.command = .play command)
    (store : SettingsStore) (available : List Track) (player : AttachedPlayer) (answers : Answers)
    {run : Run Manager}
    (h : Leads answers (sentCalls command store available player)
      (fresh (preferenceFor command store)) run) :
    Honours command store.settings.subtitles available run :=
  honours_of_leads (oneChoice_of_parse hparse hplay) h

/-- A file of the user's own is asked for although the settings disable subtitles. -/
theorem play_choice_custom :
    let store : SettingsStore := ⟨.default "/cache", none⟩
    let command : PlayCommand := ⟨"movie.mkv", none, none, none, none, none, false, true, none, 0⟩
    let run := handleAll (fun _ _ _ => .ok ())
      ((sentCalls command store [] ⟨"mpv", true⟩).map .call) (fresh (preferenceFor command store))
    store.preference = .disabled ∧ (ledger run).started.countP (·.operation = .pick) = 1 := by
  intro store command run
  have hparse : parse ["subplay", "play", "movie.mkv", "--custom"] =
      .ok ⟨false, false, none, false, .play command⟩ := by rfl
  have hhonours := play_choice hparse rfl store [] ⟨"mpv", true⟩ (fun _ _ _ => .ok ())
    (leads_handleAll _ _)
  exact ⟨rfl, hhonours.custom rfl⟩

/-- A fetch that fails takes the selection away, although the command names the language. -/
theorem selection_lost_by_failure :
    let store : SettingsStore := ⟨.default "/cache", none⟩
    let command : PlayCommand :=
      ⟨"movie.mkv", none, none, none, none, some "eng", false, false, none, 0⟩
    let available := [Track.language (some "tt1") "eng"
      [.ofName "1" "movie.srt" "http://host/1" (.finite false 0 0) 0]]
    let calls := sentCalls command store available ⟨"mpv", true⟩
    let answers : Answers := fun _ _ _ => .ok ()
    let run := complete answers (.fetched 1 (.error (.status 404)))
      (handleAll answers (calls.map .call) (fresh (preferenceFor command store)))
    parse ["subplay", "play", "movie.mkv", "--lang", "eng"] =
        .ok ⟨false, false, none, false, .play command⟩ ∧
      Leads answers calls (fresh (preferenceFor command store)) run ∧
        ¬∃ track, Track.FirstOf available "eng" track ∧
          run.state.session.selection = some track := by
  intro store command available calls answers run
  have hleads : Leads answers (calls ++ []) (fresh (preferenceFor command store)) run :=
    (leads_handleAll calls _).append (.complete _ (.done _))
  refine ⟨by rfl, List.append_nil calls ▸ hleads, ?_⟩
  rintro ⟨track, hof, hselection⟩
  have hlost : run.state.session.selection = some .none := by rfl
  rw [hlost, Option.some.injEq] at hselection
  subst hselection
  cases hof with
  | found _ hcode => cases hcode
  | absent h => exact h _ List.mem_cons_self rfl

/-! ## The program's own course -/

variable {client : Client} {web : Web}

theorem leads_attend (p : Playback) : Leads answers [] p.run (p.attend answers client web).run := by
  unfold Playback.attend
  split
  · exact .done _
  · exact .complete _ (.done _)
  · exact .wrote _ (.complete _ (.done _))

theorem leads_attendAll (p : Playback) :
    Leads answers [] p.run (p.attendAll answers client web).run :=
  (leads_attend p).append (leads_attend _)

/-- When the program has done all work, the manager still does what the command says. -/
theorem honours_playback (hchoice : command.OneChoice) {p : Playback}
    (hp : Leads answers [.setSize store.settings.subtitles.fontSize]
      (fresh (preferenceFor command store)) p.run) :
    let opening := openingCalls command (preferenceFor command store) available player
    Honours command store.settings.subtitles available
      ((p.send answers opening).attendAll answers client web).run := by
  intro opening
  have hsend : Leads answers opening p.run (p.send answers opening).run :=
    leads_handleAll opening p.run
  have hall := (hp.append hsend).append (@leads_attendAll _ client web (p.send answers opening))
  rw [List.append_nil] at hall
  exact honours_of_leads hchoice hall

end Program

end Subtitler
