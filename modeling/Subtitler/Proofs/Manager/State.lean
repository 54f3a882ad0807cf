import Subtitler.Manager.Step
import Subtitler.Proofs.Rendering.Effects

/-!
# The state after each part of a message

Apart from whether a player takes a file, the state that the manager goes to does not depend on
the answers of players. The equations here say what it is, for every part of which the handling of
messages is put together.
-/

namespace Subtitler

/-- Whether a message says that a playback has stopped. -/
def Message.isStop : Message → Bool
  | .call .playbackStopped | .bus .playbackStopped => true
  | _ => false

@[simp] theorem Run.state_callOrWarn {σ : Type} (answers : Answers) (run : Run σ)
    (player : AttachedPlayer) (call : PlayerCall) (source : LogSource)
    (complaint : String → String) :
    (run.callOrWarn answers player call source complaint).state = run.state := by
  obtain ⟨trace, -, heq⟩ := run.callOrWarn_eq answers player call source complaint
  rw [heq]

/-! ## Rendering -/

namespace Rendering

variable (answers : Answers) (run : Run Rendering)

@[simp] theorem state_deactivate (player : Option AttachedPlayer) :
    (deactivate answers player run).state = { run.state with active := none, native := false } := by
  obtain ⟨trace, -, heq⟩ := deactivate_eq answers player run
  rw [heq]

@[simp] theorem state_detach (player : AttachedPlayer) :
    (detach answers player run).state = { run.state with native := false } := by
  obtain ⟨trace, -, heq⟩ := detach_eq answers player run
  rw [heq]

@[simp] theorem state_setOffset (player : Option AttachedPlayer) (offset : Int) :
    (setOffset answers player offset run).state = { run.state with offset } := by
  by_cases h : run.state.offset = offset
  · rw [setOffset_self answers player run h, ← h]
  · obtain ⟨trace, -, heq⟩ := setOffset_eq answers player run h
    rw [heq]

@[simp] theorem active_activate (player : Option AttachedPlayer) (subtitle : Subtitle) :
    (activate answers player subtitle run).state.active = some subtitle := by
  rcases activate_cases answers player subtitle run with ⟨_, _, heq⟩ | ⟨_, _, _, _, _, heq⟩ <;>
    rw [heq]

/-- What is shown again is still the active subtitle. -/
@[simp] theorem active_redispatch (player : Option AttachedPlayer) :
    (redispatch answers player run).state.active = run.state.active := by
  unfold redispatch
  cases h : run.state.active with
  | none => exact h
  | some subtitle => exact active_activate answers run player subtitle

end Rendering

/-! ## Parts of the manager -/

namespace Manager

variable (answers : Answers) (run : Run Manager)

@[simp] theorem state_inSession (f : Session → Session) :
    (inSession f run).state = { run.state with session := f run.state.session } := rfl

@[simp] theorem state_hide :
    (hide answers run).state =
      { run.state with
        rendering := { run.state.rendering with active := none, native := false } } := by
  simp [hide, render, Run.within]

@[simp] theorem state_pauseForPick :
    (pauseForPick answers run).state =
      { run.state with session := { run.state.session with waiting := run.state.player } } := by
  unfold pauseForPick
  cases run.state.player <;> simp

@[simp] theorem state_releasePause :
    (releasePause answers run).state =
      { run.state with session := { run.state.session with waiting := none } } := by
  unfold releasePause
  cases h : run.state.session.waiting with
  | none => simp [← h]
  | some player => simp

@[simp] theorem state_cancelInFlight :
    (cancelInFlight answers run).state =
      { run.state with
        session := { run.state.session with inFlight := none, waiting := none } } := by
  unfold cancelInFlight
  cases h : run.state.session.inFlight with
  | none => simp [← h]
  | some op => simp

@[simp] theorem state_launch (operation : Operation) :
    (launch operation run).state =
      { run.state with
        epoch := run.state.epoch + 1
        session := { run.state.session with
          inFlight := some ⟨run.state.epoch + 1, operation⟩ } } := rfl

@[simp] theorem state_startFetch (track : Track) :
    (startFetch track run).state =
      { run.state with
        epoch := run.state.epoch + 1
        session := { run.state.session with
          inFlight := some ⟨run.state.epoch + 1, .fetch track run.state.session.matcher⟩ } } := rfl

@[simp] theorem state_startPick :
    (startPick answers run).state =
      { run.state with
        epoch := run.state.epoch + 1
        session := { run.state.session with
          inFlight := some ⟨run.state.epoch + 1, .pick⟩
          waiting := run.state.player } } := by
  simp [startPick]

@[simp] theorem state_resetSession (player : Option AttachedPlayer) :
    (resetSession answers player run).state =
      { run.state with
        session := {}
        rendering := { run.state.rendering with active := none, native := false } } := by
  simp [resetSession, render, Run.within]

/-- When a playback has stopped, the player, the preference, the size and the numbers of operations
and playbacks are kept. -/
theorem state_playbackStopped (h : run.state.session.isIdle = false) :
    (playbackStopped answers run).state = { run.state with session := {}, rendering := {} } := by
  simp [playbackStopped, h, render, Run.within]

/-- What attaching a player, taking the subtitle from another one and showing it again keep is kept
when a player is replaced. -/
theorem setPlayer_invariant {I : Run Manager → Prop} (player : Option AttachedPlayer)
    (hattach : I (run.modify ({ · with player })))
    (hdetach : ∀ run previous, I run → I (render (Rendering.detach answers previous) run))
    (hredispatch : ∀ run, I run → I (render (Rendering.redispatch answers player) run)) :
    I (setPlayer answers player run) := by
  unfold setPlayer
  cases run.state.player.filter fun previous => some previous != player with
  | none =>
    dsimp only
    split
    · exact hredispatch _ hattach
    · exact hattach
  | some previous =>
    have hdetached := hdetach _ previous hattach
    dsimp only
    split
    · exact hredispatch _ hdetached
    · exact hdetached

/-- Replacing a player changes neither the session nor the active subtitle. -/
theorem state_setPlayer (player : Option AttachedPlayer) :
    (setPlayer answers player run).state.session = run.state.session ∧
      (setPlayer answers player run).state.rendering.active = run.state.rendering.active := by
  refine setPlayer_invariant answers run (I := fun r => r.state.session = run.state.session ∧
    r.state.rendering.active = run.state.rendering.active) player ⟨rfl, rfl⟩ ?_ ?_
  · rintro r previous ⟨hsession, hactive⟩
    exact ⟨hsession, by simpa [render, Run.within] using hactive⟩
  · rintro r ⟨hsession, hactive⟩
    exact ⟨hsession, by simpa [render, Run.within] using hactive⟩

/-- A stop that is called and one that is published do the same. -/
theorem handle_of_isStop {message : Message} (h : message.isStop = true) :
    handle answers run message = playbackStopped answers run := by
  match message, h with
  | .call .playbackStopped, _ | .bus .playbackStopped, _ => rfl

/-! ## Whole runs -/

/-- What comes of taking messages one after the other, when nothing has happened before. -/
def outcome (preference : Preference) (messages : List Message) : Run Manager :=
  handleAll answers messages (fresh preference)

theorem handleAll_append (first rest : List Message) :
    handleAll answers (first ++ rest) run = handleAll answers rest (handleAll answers first run) :=
  List.foldl_append

theorem outcome_append (preference : Preference) (first rest : List Message) :
    outcome answers preference (first ++ rest) =
      handleAll answers rest (outcome answers preference first) :=
  handleAll_append answers _ first rest

theorem outcome_concat (preference : Preference) (messages : List Message) (message : Message) :
    outcome answers preference (messages ++ [message]) =
      handle answers (outcome answers preference messages) message :=
  outcome_append answers preference messages [message]

end Manager

end Subtitler
