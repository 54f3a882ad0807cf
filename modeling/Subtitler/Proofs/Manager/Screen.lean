import Mathlib.Data.List.DropRight
import Mathlib.Data.List.Induction
import Subtitler.Proofs.Manager.Scene

/-!
# What players have on their screens

A player shows the file that it took last, until it is told to clear it or its playback stops. It
may refuse a file. Then it goes on showing the one that it has, while the manager turns to the
overlay.

**Theorem (`shown_iff_rendered`).** At any time, a player shows a file and has refused no other one
since if and only if the manager renders this file on it: natively, on the attached player, as the
file of the active subtitle. So no player is left with a file that the manager no longer renders on
it, unless it refused the next one. In the run of `refused_beside_overlay` a player did.

**Theorem (`native_rendered`).** Conversely, rendering natively is never claimed falsely: the
attached player renders files, it took that of the active subtitle, and it has neither been told to
clear it nor been given another one since.

Both rest on the invariant `Scene.Screened`: the players that show something they have not refused
to replace are those that the scene renders on.
-/

namespace Subtitler

open Rendering (Delays NativeCall Refused)

/-! ## Screens -/

/-- What a player has on its screen: the file that it took last, and whether it has refused another
one since. -/
structure Screen where
  file : String
  refused : Bool := false
deriving DecidableEq, Repr

namespace Effect

/-- Whether an effect gives a player a file or tells it to clear the one that it has. -/
def isScreenCall (player : AttachedPlayer) : Effect → Bool
  | .called p (.subtitleFile _) _ | .called p .clearSubtitleFile _ => p = player
  | _ => false

/-- What an effect makes of the screen of a player. -/
def onScreen (player : AttachedPlayer) (screen : Option Screen) : Effect → Option Screen
  | .called p (.subtitleFile file) none => if p = player then some { file } else screen
  | .called p (.subtitleFile _) (some _) =>
    if p = player then screen.map ({ · with refused := true }) else screen
  | .called p .clearSubtitleFile _ => if p = player then none else screen
  | _ => screen

theorem onScreen_eq_self {player : AttachedPlayer} {effect : Effect}
    (h : effect.isScreenCall player = false) (screen : Option Screen) :
    effect.onScreen player screen = screen := by
  cases effect with
  | called p call refusal =>
    cases call with
    | subtitleFile file => cases refusal <;> exact if_neg (of_decide_eq_false h)
    | clearSubtitleFile => exact if_neg (of_decide_eq_false h)
    | _ => rfl
  | _ => rfl

end Effect

/-- The screen of a player after all effects. -/
def screenOf (player : AttachedPlayer) (effects : List Effect) : Option Screen :=
  effects.foldl (Effect.onScreen player) none

/-- A player shows a file and has refused no other one since. -/
def Shows (player : AttachedPlayer) (file : String) (effects : List Effect) : Prop :=
  screenOf player effects = some ⟨file, false⟩

instance (player : AttachedPlayer) (file : String) (effects : List Effect) :
    Decidable (Shows player file effects) :=
  inferInstanceAs (Decidable (_ = _))

/-- Effects that leave the screen of a player as it is. -/
def OffScreen (player : AttachedPlayer) (effects : List Effect) : Prop :=
  ∀ effect ∈ effects, effect.isScreenCall player = false

theorem screenOf_append (player : AttachedPlayer) (first rest : List Effect) :
    screenOf player (first ++ rest) =
      rest.foldl (Effect.onScreen player) (screenOf player first) :=
  List.foldl_append

theorem screenOf_concat (player : AttachedPlayer) (effects : List Effect) (effect : Effect) :
    screenOf player (effects ++ [effect]) = effect.onScreen player (screenOf player effects) :=
  screenOf_append player effects [effect]

theorem OffScreen.screenOf_append {player : AttachedPlayer} {rest : List Effect}
    (h : OffScreen player rest) (first : List Effect) :
    screenOf player (first ++ rest) = screenOf player first := by
  induction rest generalizing first with
  | nil => rw [List.append_nil]
  | cons effect rest ih =>
    have hfirst : screenOf player (first ++ [effect]) = screenOf player first := by
      rw [screenOf_concat, Effect.onScreen_eq_self (h effect List.mem_cons_self)]
    rw [← hfirst, List.append_cons]
    exact ih (fun e he => h e (List.mem_cons_of_mem effect he)) (first ++ [effect])

theorem offScreen_aside {effects : List Effect} (h : ∀ effect ∈ effects, effect.isAside = true)
    (player : AttachedPlayer) : OffScreen player effects := by
  intro effect he
  have haside := h effect he
  cases effect with
  | called p call refusal => cases call <;> first | rfl | cases haside
  | _ => rfl

theorem offScreen_notified (player : AttachedPlayer) (event : SubtitleEvent) :
    OffScreen player [.notified event] := by
  intro effect he
  rw [List.mem_singleton.1 he]
  rfl

theorem offScreen_delay {p : AttachedPlayer} {delay : Int} {trace : List Effect}
    (h : CallTrace p (.subtitleDelay delay) trace) (player : AttachedPlayer) :
    OffScreen player trace := by
  intro effect he
  rcases h.mem he with ⟨_, rfl⟩ | ⟨_, rfl⟩ <;> rfl

theorem offScreen_delays {p : AttachedPlayer} {offset : Int} {trace : List Effect}
    (h : Delays p offset trace) (player : AttachedPlayer) : OffScreen player trace := by
  unfold Delays at h
  split_ifs at h
  · simp [h, OffScreen]
  · exact offScreen_delay h player

/-! ## Showing a file -/

section Shows

variable {player p : AttachedPlayer} {file : String} {effects : List Effect}

theorem OffScreen.shows_append {rest : List Effect} (h : OffScreen player rest) :
    Shows player file (effects ++ rest) ↔ Shows player file effects := by
  unfold Shows
  rw [h.screenOf_append]

/-- A player that is told to clear its file shows none. -/
theorem shows_append_clear {trace : List Effect} (h : CallTrace p .clearSubtitleFile trace) :
    Shows player file (effects ++ trace) ↔ player ≠ p ∧ Shows player file effects := by
  obtain ⟨refusal, log, rfl, hlog⟩ := h
  have hoff : OffScreen player log := fun effect he => by
    obtain ⟨entry, rfl⟩ := hlog effect he
    rfl
  rw [List.append_cons, hoff.shows_append]
  unfold Shows
  rw [screenOf_concat]
  by_cases hp : p = player
  · simp [Effect.onScreen, hp]
  · simp [Effect.onScreen, hp, Ne.symm hp]

/-- A player that refuses a file shows none that it has not refused to replace. -/
theorem shows_append_refusal {f : String} {cause : PlayerError} {entry : LogEntry} :
    Shows player file
        (effects ++ [.called p (.subtitleFile f) (some cause), .logged entry]) ↔
      player ≠ p ∧ Shows player file effects := by
  have hoff : OffScreen player [.logged entry] := by simp [OffScreen, Effect.isScreenCall]
  rw [List.append_cons, hoff.shows_append]
  unfold Shows
  rw [screenOf_concat]
  by_cases hp : p = player
  · simp [Effect.onScreen, hp]
  · simp [Effect.onScreen, hp, Ne.symm hp]

/-- A player that takes a file shows this one. -/
theorem shows_append_taken {f : String} :
    Shows player file (effects ++ [.called p (.subtitleFile f) none]) ↔
      (player = p ∧ file = f) ∨ (player ≠ p ∧ Shows player file effects) := by
  unfold Shows
  rw [screenOf_concat]
  by_cases hp : p = player
  · simp [Effect.onScreen, hp, eq_comm]
  · simp [Effect.onScreen, hp, Ne.symm hp]

/-- A player that shows a file has taken it, and since then it was neither given another one nor
told to clear it. -/
theorem Shows.exists_taken (h : Shows player file effects) :
    ∃ before since, effects = before ++ .called player (.subtitleFile file) none :: since ∧
      OffScreen player since := by
  induction effects using List.reverseRecOn with
  | nil => cases h
  | append_singleton effects effect ih =>
    unfold Shows at h
    rw [screenOf_concat] at h
    cases hcall : effect.isScreenCall player with
    | true =>
      -- Of these calls, only one that is taken shows a file that has not been refused since.
      match effect, hcall with
      | .called p (.subtitleFile f) none, hcall =>
        obtain rfl : p = player := of_decide_eq_true hcall
        rw [Effect.onScreen, if_pos rfl] at h
        cases h
        exact ⟨effects, [], rfl, by simp [OffScreen]⟩
      | .called p (.subtitleFile f) (some cause), hcall =>
        rw [Effect.onScreen, if_pos (of_decide_eq_true hcall)] at h
        obtain ⟨screen, -, hscreen⟩ := Option.map_eq_some_iff.1 h
        cases hscreen
      | .called p .clearSubtitleFile refusal, hcall =>
        rw [Effect.onScreen, if_pos (of_decide_eq_true hcall)] at h
        cases h
    | false =>
      rw [Effect.onScreen_eq_self hcall] at h
      obtain ⟨before, since, rfl, hsince⟩ := ih h
      refine ⟨before, since ++ [effect], by simp, fun e he => ?_⟩
      rcases List.mem_append.1 he with he | he
      · exact hsince e he
      · rw [List.mem_singleton.1 he]
        exact hcall

end Shows

/-! ## The screens of a scene -/

namespace Scene

/-- A scene renders a file natively on a player. -/
def RendersOn (s : Scene) (player : AttachedPlayer) (file : String) : Prop :=
  s.rendering.native = true ∧ s.player = some player ∧
    s.rendering.active.map (·.file) = some file

/-- Since some earlier effects, the players that show a file and have refused none since are those
that the scene renders it on. -/
def Screened (earlier : List Effect) (s : Scene) : Prop :=
  ∃ since, s.effects = earlier ++ since ∧
    ∀ player file, Shows player file since ↔ s.RendersOn player file

/-- Once the subtitle has been taken from a player that another one replaces, only a player that
stays can still show it. -/
theorem Withdrawn.shows_iff {s : Scene} {next : Option AttachedPlayer}
    {since withdrawn : List Effect} (hw : s.Withdrawn next withdrawn)
    (h : ∀ player file, Shows player file since ↔ s.RendersOn player file)
    (player : AttachedPlayer) (file : String) :
    Shows player file (since ++ withdrawn) ↔ next = s.player ∧ s.RendersOn player file := by
  rcases hw with ⟨rfl, rfl⟩ | ⟨previous, hprevious, hne, -, htrace⟩
  · simp [h]
  · rw [shows_append_clear htrace, h]
    refine iff_of_false (fun ⟨hplayer, _, hp, _⟩ => ?_) (fun ⟨hnext, _⟩ => ?_)
    · exact hplayer (Option.some.inj (hp.symm.trans hprevious))
    · exact hne (hprevious.symm.trans hnext.symm)

theorem screened_step {earlier : List Effect} {s t : Scene} (hg : s.Grounded)
    (h : Step false s t) (hs : s.Screened earlier) : t.Screened earlier := by
  obtain ⟨since, he, hsince⟩ := hs
  cases h with
  | @aside trace h =>
    refine ⟨since ++ trace, by simp [he], fun player file => ?_⟩
    rw [(offScreen_aside h player).shows_append]
    exact hsince player file
  | resize size =>
    refine ⟨since ++ [.notified (.sizeChanged size)], by simp [he], fun player file => ?_⟩
    rw [(offScreen_notified player _).shows_append]
    exact hsince player file
  | @move offset trace h =>
    refine ⟨since ++ trace ++ [.notified (.offsetChanged offset)], by simp [he],
      fun player file => ?_⟩
    have htrace : OffScreen player trace := by
      rcases h with ⟨-, rfl⟩ | ⟨p, -, -, h⟩
      · simp [OffScreen]
      · exact offScreen_delay h player
    rw [(offScreen_notified player _).shows_append, htrace.shows_append]
    exact hsince player file
  | @hide trace h =>
    refine ⟨since ++ trace ++ [.notified .disabled], by simp [he], fun player file => ?_⟩
    rw [(offScreen_notified player _).shows_append]
    refine iff_of_false (fun hshows => ?_) (fun ⟨hn, _⟩ => by cases hn)
    rcases h with ⟨hnone, rfl⟩ | ⟨p, hp, -, htrace⟩
    · rw [List.append_nil, hsince] at hshows
      obtain ⟨hn, hplayer, -⟩ := hshows
      simp [hn, hplayer] at hnone
    · rw [shows_append_clear htrace, hsince] at hshows
      obtain ⟨hne, -, hplayer, -⟩ := hshows
      exact hne (Option.some.inj (hplayer.symm.trans hp))
  | close h => cases h
  | attach player hn =>
    refine ⟨since, he, fun player file => ?_⟩
    rw [hsince]
    exact iff_of_false (fun ⟨h, _⟩ => absurd (hn.symm.trans h) (by decide))
      (fun ⟨h, _⟩ => absurd (hn.symm.trans h) (by decide))
  | @overlay next subtitle withdrawn refused hw hr =>
    refine ⟨since ++ withdrawn ++ refused ++ [.notified (.activated subtitle)], by simp [he],
      fun player file => ?_⟩
    rw [(offScreen_notified player _).shows_append]
    refine iff_of_false (fun hshows => ?_) (fun ⟨hn, _⟩ => by cases hn)
    rcases hr with ⟨hnone, rfl⟩ | ⟨p, cause, entry, hp, -, rfl⟩
    · -- A subtitle that was rendered natively is on a player that renders files.
      rw [List.append_nil, hw.shows_iff hsince] at hshows
      obtain ⟨hnext, hn, -⟩ := hshows
      obtain ⟨-, p, hp, hfiles⟩ := hg hn
      simp [hnext, hp, hfiles] at hnone
    · rw [shows_append_refusal, hw.shows_iff hsince] at hshows
      obtain ⟨hne, hnext, -, hplayer, -⟩ := hshows
      exact hne (Option.some.inj ((hplayer.symm.trans hnext.symm).trans hp))
  | @natively p subtitle withdrawn delays hw hp hd =>
    refine ⟨since ++ withdrawn ++ .called p (.subtitleFile subtitle.file) none :: delays ++
      [.notified (.nativeActivated subtitle.file)], by simp [he], fun player file => ?_⟩
    rw [(offScreen_notified player _).shows_append, List.append_cons,
      (offScreen_delays hd player).shows_append, shows_append_taken, hw.shows_iff hsince]
    constructor
    · rintro (⟨rfl, rfl⟩ | ⟨hne, hnext, -, hplayer, -⟩)
      · exact ⟨rfl, rfl, rfl⟩
      · exact absurd (Option.some.inj (hplayer.symm.trans hnext.symm)) hne
    · rintro ⟨-, hplayer, hfile⟩
      exact Or.inl ⟨(Option.some.inj hplayer).symm, (Option.some.inj hfile).symm⟩

end Scene

/-! ## The screens of a run -/

namespace Manager

variable (answers : Answers) (preference : Preference)

/-- All that has been done since a playback stopped last. -/
def sinceStop (messages : List Message) : List Effect :=
  (outcome answers preference messages).effects.drop
    (outcome answers preference (messages.rdropWhile fun m => !m.isStop)).effects.length

/-- When a playback has stopped, nothing is rendered natively. -/
theorem native_of_isStop {run : Run Manager} (hg : (scene run).Grounded) {message : Message}
    (h : message.isStop = true) :
    (handle answers run message).state.rendering.native = false := by
  rw [handle_of_isStop answers run h, playbackStopped]
  split_ifs with hidle
  · refine Bool.eq_false_iff.2 fun hn => ?_
    obtain ⟨hactive, -⟩ := hg hn
    have hactive : run.state.rendering.active.isSome = true := hactive
    simp [Option.isSome_iff_ne_none.1 hactive] at hidle
  · simp [render, Run.within]

theorem screened_outcome (messages : List Message) :
    (scene (outcome answers preference messages)).Screened
      (outcome answers preference (messages.rdropWhile fun m => !m.isStop)).effects := by
  induction messages using List.reverseRecOn with
  | nil =>
    refine ⟨[], rfl, fun player file => iff_of_false (fun h => ?_) (fun ⟨hn, _⟩ => ?_)⟩
    · cases h
    · cases hn
  | append_singleton messages message ih =>
    have hg := grounded_outcome answers preference messages
    cases hstop : message.isStop with
    | true =>
      rw [List.rdropWhile_concat_neg _ _ _ (by simp [hstop])]
      refine ⟨[], (List.append_nil _).symm, fun player file => ?_⟩
      refine iff_of_false (fun h => by cases h) (fun ⟨hn, _⟩ => ?_)
      rw [outcome_concat] at hn
      exact absurd ((native_of_isStop answers hg hstop).symm.trans hn) (by decide)
    | false =>
      rw [List.rdropWhile_concat_pos _ _ _ (by simp [hstop]), outcome_concat]
      have hsteps := steps_handle answers hg message
      rw [hstop] at hsteps
      exact Scene.Steps.invariant Scene.screened_step hsteps hg ih

/-- **A player shows what the manager renders on it.** Since a playback stopped last, a player shows
a file, and has refused no other one since it took it, if and only if the manager renders natively,
the player is attached, and the file is that of the active subtitle. -/
theorem shown_iff_rendered (messages : List Message) (player : AttachedPlayer) (file : String) :
    let m := (outcome answers preference messages).state
    screenOf player (sinceStop answers preference messages) = some { file, refused := false } ↔
      m.rendering.native = true ∧ m.player = some player ∧
        m.rendering.active.map (·.file) = some file := by
  intro m
  obtain ⟨since, he, hsince⟩ := screened_outcome answers preference messages
  have he : (outcome answers preference messages).effects = _ := he
  rw [sinceStop, he, List.drop_left]
  exact hsince player file

/-- A player that takes some files and refuses others. -/
def choosy : Answers := fun _ _ call =>
  if call = .subtitleFile "/tmp/b.srt" then .error (.rejected "rejected") else .ok ()

/-- **A player that is left behind**: it renders a subtitle, is given another one, and refuses it.
The other one is shown in the overlay, and the player goes on showing the first. -/
theorem refused_beside_overlay :
    let track : Track := .language none "eng" []
    let first : Subtitle := ⟨"/tmp/a.srt", some track, []⟩
    let second : Subtitle := ⟨"/tmp/b.srt", some track, []⟩
    let messages : List Message :=
      [.call (.setPlayer (some ⟨"mpv", true⟩)),
        .call (.playbackStarted ⟨"movie.mkv", none, true, some track, []⟩),
        .completion (.fetched 1 (.ok first)), .call (.select track),
        .completion (.fetched 2 (.ok second))]
    let run := outcome choosy (.language "eng") messages
    screenOf ⟨"mpv", true⟩ (sinceStop choosy (.language "eng") messages) =
        some ⟨"/tmp/a.srt", true⟩ ∧
      run.state.rendering.native = false ∧ run.state.rendering.active = some second ∧
      run.events.getLast? = some (.activated second) := by
  decide

/-- **Rendering natively is never claimed falsely.** While it is on, there is an active subtitle and
an attached player that renders files. The player took the file of the subtitle, and since then it
was not told to clear it and was given no other one, whether it took it or not. -/
theorem native_rendered (messages : List Message)
    (hn : (outcome answers preference messages).state.rendering.native = true) :
    let run := outcome answers preference messages
    ∃ p subtitle before since, run.state.player = some p ∧ p.rendersFiles = true ∧
      run.state.rendering.active = some subtitle ∧
      run.effects = before ++ .called p (.subtitleFile subtitle.file) none :: since ∧
      ∀ call refusal, .called p call refusal ∈ since →
        call ≠ .clearSubtitleFile ∧ ∀ file, call ≠ .subtitleFile file := by
  intro run
  obtain ⟨hactive, p, hp, hfiles⟩ := grounded_outcome answers preference messages hn
  obtain ⟨subtitle, hsubtitle⟩ := Option.isSome_iff_exists.1 hactive
  obtain ⟨since, he, hsince⟩ := screened_outcome answers preference messages
  have hshows : Shows p subtitle.file since :=
    (hsince p subtitle.file).2 ⟨hn, hp, congrArg (Option.map Subtitle.file) hsubtitle⟩
  obtain ⟨before, taken, rfl, hoff⟩ := hshows.exists_taken
  rw [← List.append_assoc] at he
  refine ⟨p, subtitle, _, taken, hp, hfiles, hsubtitle, he, fun call refusal hmem => ?_⟩
  have hcall : Effect.isScreenCall p (.called p call refusal) = false := hoff _ hmem
  refine ⟨fun hclear => ?_, fun file hfile => ?_⟩
  · simp [hclear, Effect.isScreenCall] at hcall
  · simp [hfile, Effect.isScreenCall] at hcall

/-- A subtitle is rendered by one player and moves on to another one. There it is moved in time, and
the player waits while the user picks a file. -/
def movedToAnother : List Message :=
  let track : Track := .language none "eng" []
  [.call (.setPlayer (some ⟨"mpv", true⟩)),
    .call (.playbackStarted ⟨"movie.mkv", none, true, some track, []⟩),
    .completion (.fetched 1 (.ok ⟨"/tmp/movie.srt", some track, []⟩)),
    .call (.setPlayer (some ⟨⟨"mpv", 1⟩, true⟩)), .call (.setOffset 500),
    .call (.select (.custom []))]

theorem native_rendered_moved :
    let run := outcome (fun _ _ _ => .ok ()) (.language "eng") movedToAnother
    run.state.rendering.native = true ∧
      ∃ p subtitle before since, run.state.player = some p ∧ p.rendersFiles = true ∧
        run.state.rendering.active = some subtitle ∧
        run.effects = before ++ .called p (.subtitleFile subtitle.file) none :: since ∧
        ∀ call refusal, .called p call refusal ∈ since →
          call ≠ .clearSubtitleFile ∧ ∀ file, call ≠ .subtitleFile file :=
  ⟨by decide, native_rendered _ _ movedToAnother (by decide)⟩

end Manager

end Subtitler
