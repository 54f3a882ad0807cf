import Mathlib.Data.List.DropRight
import Subtitler.Proofs.Manager.Response
import Subtitler.Proofs.Manager.Selection

/-!
# What a stop makes of the offset

A stop is meant to put the offset back to zero. It does so only while something is selected: if no
playback has started and no track was selected since the stop before, the manager takes the stop for
one too many and does nothing. An offset that was set meanwhile outlives it.

**Theorem (`resetsOffset_iff`).** A stop resets the offset if and only if the offset is zero already
or something was started or selected since the stop before. In this case the listeners are told that
nothing is shown any more and that the offset is zero, if it was not; in the other case nothing
changes.

`offset_outlives_stop` is a run in which the offset is not reset.
-/

namespace Subtitler

/-! ## In use -/

/-- Whether a message starts a playback or selects a track. -/
def Message.selects : Message → Bool
  | .call (.playbackStarted _) | .bus (.playbackStarted _) | .call (.select _) => true
  | _ => false

/-- Whether something was started or selected since the last stop. -/
def inUse (messages : List Message) : Bool :=
  (messages.rtakeWhile fun message => !message.isStop).any Message.selects

theorem inUse_concat (messages : List Message) (message : Message) :
    inUse (messages ++ [message]) =
      (!message.isStop && (inUse messages || message.selects)) := by
  unfold inUse
  rw [List.rtakeWhile_concat]
  cases message.isStop <;> simp

/-! ## Playing and selecting -/

theorem Begin.selection_eq {player : Option AttachedPlayer} {epoch epoch' : Nat}
    {session session' : Session} {track : Track} {trace : List Act}
    (h : Begin player epoch session track trace session' epoch') :
    session'.selection = some track := by
  cases h <;> rfl

theorem Response.id_eq_none {m : Manager} {message : Message} {trace : List Act} {session : Session}
    {epoch : Nat} (h : Response m message trace session epoch)
    (hm : m.session.selection = none → m.session.id = none) :
    session.selection = none → session.id = none := by
  cases h with
  | rest | fetched => exact hm
  | stop => exact fun _ => rfl
  | disable | answered | declined | failed => nofun
  | select h | start _ _ h =>
    rw [h.selection_eq]
    nofun

namespace Manager

variable (answers : Answers)

/-! ## Selections -/

theorem selection_applySelection (track : Track) (run : Run Manager) :
    (applySelection answers track run).state.session.selection = some track := by
  unfold applySelection beginSelection
  split_ifs <;> simp

variable {run : Run Manager}

/-- Disabling subtitles selects nothing where nothing was selected. -/
theorem isSome_selection_setPreference (preference : Preference) :
    (setPreference answers preference run).state.session.selection.isSome =
      run.state.session.selection.isSome := by
  unfold setPreference
  dsimp only
  split_ifs with h
  · have hselected : run.state.session.selection.isSome = true := by
      simp only [Bool.and_eq_true, Option.any_eq_true] at h
      obtain ⟨-, track, hs, -⟩ := h
      rw [show run.state.session.selection = some track from hs]
      rfl
    rw [selection_applySelection, hselected]
    rfl
  · rfl

/-- The end of an operation changes what is selected, but not whether something is. -/
theorem isSome_selection_complete
    (h : run.state.session.selection = none → run.state.session.inFlight = none)
    (completion : Completion) :
    (complete answers completion run).state.session.selection.isSome =
      run.state.session.selection.isSome := by
  unfold complete
  split_ifs with hends
  · have hselected : run.state.session.selection.isSome = true := by
      refine Option.isSome_iff_ne_none.2 fun hnone => ?_
      simp [h hnone] at hends
    rw [hselected]
    cases completion with
    | fetched _ result =>
      cases result <;> simp [fetchCompleted, render, Run.within, hselected]
    | picked _ picked =>
      dsimp only
      unfold pickCompleted
      split <;> simp
  · rfl

/-- Nothing is selected after a stop, even if the stop was one too many. -/
theorem isSome_selection_playbackStopped :
    (playbackStopped answers run).state.session.selection.isSome = false := by
  unfold playbackStopped
  split_ifs with hidle
  · simp only [Session.isIdle, Bool.and_eq_true, Option.isNone_iff_eq_none] at hidle
    rw [hidle.1.2]
    rfl
  · simp [render, Run.within]

/-- What a message does to the question whether something is selected. -/
theorem isSome_selection_handle
    (h : run.state.session.selection = none → run.state.session.inFlight = none)
    (message : Message) :
    (handle answers run message).state.session.selection.isSome =
      (!message.isStop && (run.state.session.selection.isSome || message.selects)) := by
  -- A message that neither selects nor stops leaves it as it is.
  have hrest {run' : Run Manager} {message : Message} (hstop : message.isStop = false)
      (hselects : message.selects = false)
      (hkept : run'.state.session.selection.isSome = run.state.session.selection.isSome) :
      run'.state.session.selection.isSome =
        (!message.isStop && (run.state.session.selection.isSome || message.selects)) := by
    simp [hkept, hstop, hselects]
  -- A start and a selection end with a track, whatever was before.
  have hselected {message : Message} (hstop : message.isStop = false)
      (hselects : message.selects = true) (track : Track) (r : Run Manager) :
      (applySelection answers track r).state.session.selection.isSome =
        (!message.isStop && (run.state.session.selection.isSome || message.selects)) := by
    simp [selection_applySelection, hstop, hselects]
  cases message with
  | completion c => exact hrest rfl rfl (isSome_selection_complete answers h c)
  | call c =>
    cases c with
    | playbackStarted request => exact hselected rfl rfl _ _
    | playbackStopped => exact isSome_selection_playbackStopped answers
    | select track => exact hselected rfl rfl track run
    | setPlayer player =>
      have hsession := (state_setPlayer answers run player).1
      exact hrest rfl rfl (congrArg (fun session => session.selection.isSome) hsession)
    | setPreference preference =>
      exact hrest rfl rfl (isSome_selection_setPreference answers preference)
    | setOffset offset => exact hrest rfl rfl rfl
    | setSize size =>
      refine hrest rfl rfl ?_
      change (setSize size run).state.session.selection.isSome = _
      unfold setSize
      split_ifs <;> rfl
  | bus event =>
    cases event with
    | playbackStarted request => exact hselected rfl rfl _ _
    | playbackStopped => exact isSome_selection_playbackStopped answers
    | errorNotification message => exact hrest rfl rfl rfl

/-- Something is selected exactly while the manager is in use. -/
theorem isSome_selection_outcome (preference : Preference) (messages : List Message) :
    (outcome answers preference messages).state.session.selection.isSome = inUse messages := by
  induction messages using List.reverseRecOn with
  | nil => rfl
  | append_singleton messages message ih =>
    have hagreed := agreed_outcome answers preference messages
    rw [outcome_concat, inUse_concat, ← ih]
    exact isSome_selection_handle answers (fun hs => (hagreed.of_none (Or.inl hs)).1) message

/-! ## Sessions -/

/-- A playback is only on while something is selected. -/
theorem id_outcome (preference : Preference) (messages : List Message) :
    (outcome answers preference messages).state.session.selection = none →
      (outcome answers preference messages).state.session.id = none := by
  induction messages using List.reverseRecOn with
  | nil => exact fun _ => rfl
  | append_singleton messages message ih =>
    obtain ⟨trace, -, hresponse⟩ := responds_outcome answers preference messages message
    exact Response.id_eq_none hresponse ih

/-- A session is on exactly while the manager is in use. -/
theorem isIdle_outcome (preference : Preference) (messages : List Message) :
    (outcome answers preference messages).state.session.isIdle = !inUse messages := by
  have hselected := isSome_selection_outcome answers preference messages
  have hid := id_outcome answers preference messages
  have hflight := (agreed_outcome answers preference messages).of_none
  generalize outcome answers preference messages = run at hselected hid hflight
  rw [← hselected, Session.isIdle]
  cases hs : run.state.session.selection with
  | some track => simp
  | none => simp [hid hs, (hflight (Or.inl hs)).1]

/-! ## Stops -/

/-- A stop ends a session that is on: it gives up the operation in flight, tells the listeners that
nothing is shown any more, and puts the offset back. The player has closed and is not called. -/
theorem effects_playbackStopped (h : run.state.session.isIdle = false) :
    (playbackStopped answers run).effects = run.effects ++
      ((run.state.session.inFlight.map fun op => .cancelled op.epoch).toList ++
        .notified .disabled ::
          if run.state.rendering.offset = 0 then [] else [.notified (.offsetChanged 0)]) := by
  have hcancel : (inSession (fun _ => {})
      (cancelInFlight answers (inSession ({ · with waiting := none }) run))).effects =
        run.effects ++ (run.state.session.inFlight.map fun op => .cancelled op.epoch).toList := by
    unfold cancelInFlight releasePause
    cases hop : run.state.session.inFlight with
    | none => simp [hop, inSession]
    | some op => simp [hop, inSession]
  unfold playbackStopped resetSession
  rw [h, Bool.false_and, if_neg Bool.false_ne_true]
  by_cases hzero : run.state.rendering.offset = 0 <;>
    simp [render, Run.within, Rendering.setOffset, Rendering.deactivate, Run.notify, hzero, hcancel]

/-- The offset is zero after a stop, and if it was another one before, the listeners are told. -/
def ResetsOffset (before after : Run Manager) : Prop :=
  after.state.rendering.offset = 0 ∧
    (before.state.rendering.offset ≠ 0 →
      ∃ done, after.effects = before.effects ++ done ∧ .notified (.offsetChanged 0) ∈ done)

/-- **When a stop resets the offset.** It does so if and only if the offset is zero already or
something was started or selected since the stop before. Then it tells the listeners that nothing is
shown any more, and of the offset if it was not zero; otherwise it does nothing. -/
theorem resetsOffset_iff (preference : Preference) (messages : List Message) (stop : Message)
    (hstop : stop.isStop = true) :
    let before := outcome answers preference messages
    let after := outcome answers preference (messages ++ [stop])
    (ResetsOffset before after ↔ before.state.rendering.offset = 0 ∨ inUse messages = true) ∧
      (inUse messages = true → after.events = before.events ++ .disabled ::
        if before.state.rendering.offset = 0 then [] else [.offsetChanged 0]) ∧
      (inUse messages = false → after = before) := by
  intro before after
  have hafter : after = playbackStopped answers before := by
    rw [← handle_of_isStop answers before hstop, ← outcome_concat]
  have hidle : before.state.session.isIdle = !inUse messages :=
    isIdle_outcome answers preference messages
  cases huse : inUse messages with
  | false =>
    have hselection : before.state.session.selection = none := by
      have hselected := isSome_selection_outcome answers preference messages
      rw [huse] at hselected
      simpa using hselected
    have hactive : before.state.rendering.active = none :=
      ((agreed_outcome answers preference messages).of_none (Or.inl hselection)).2
    have hsame : after = before := by
      rw [hafter, playbackStopped, hidle, huse, hactive]
      rfl
    refine ⟨⟨fun h => ?_, fun h => ?_⟩, fun h => absurd h Bool.false_ne_true, fun _ => hsame⟩
    · exact Or.inl (hsame ▸ h.1)
    · have hzero : before.state.rendering.offset = 0 := by simpa using h
      exact ⟨hsame ▸ hzero, fun hne => absurd hzero hne⟩
  | true =>
    rw [huse] at hidle
    have hstate := state_playbackStopped answers before hidle
    have heffects := effects_playbackStopped answers hidle
    rw [← hafter] at hstate heffects
    refine ⟨iff_of_true ⟨by rw [hstate], fun hne => ⟨_, heffects, ?_⟩⟩ (Or.inr rfl), fun _ => ?_,
      fun h => absurd h.symm Bool.false_ne_true⟩
    · simp [hne]
    · have hcancelled : (before.state.session.inFlight.map fun op =>
          Effect.cancelled op.epoch).toList.filterMap Effect.event? = [] := by
        cases before.state.session.inFlight <;> rfl
      rw [Run.events, heffects, List.filterMap_append, List.filterMap_append, hcancelled,
        List.nil_append]
      split_ifs <;> rfl

/-- The offset is changed during a playback, and again when the playback has stopped. -/
def movedBetweenPlaybacks : List Message :=
  [.call (.playbackStarted ⟨"movie.mkv", none, true, some (.language none "eng" []), []⟩),
    .call (.setOffset 300), .call .playbackStopped, .call (.setOffset 500)]

theorem resetsOffset_iff_moved :
    let before := outcome (fun _ _ _ => .ok ()) (.language "eng") movedBetweenPlaybacks
    let after := outcome (fun _ _ _ => .ok ()) (.language "eng")
      (movedBetweenPlaybacks ++ [.bus .playbackStopped])
    Message.isStop (.bus .playbackStopped) = true ∧
      (ResetsOffset before after ↔
        before.state.rendering.offset = 0 ∨ inUse movedBetweenPlaybacks = true) ∧
      (inUse movedBetweenPlaybacks = true → after.events = before.events ++ .disabled ::
        if before.state.rendering.offset = 0 then [] else [.offsetChanged 0]) ∧
      (inUse movedBetweenPlaybacks = false → after = before) :=
  ⟨rfl, resetsOffset_iff _ _ movedBetweenPlaybacks (.bus .playbackStopped) rfl⟩

/-- **An offset that outlives a stop**: it is changed before anything is played, so that the stop
does nothing. -/
theorem offset_outlives_stop :
    let before := outcome (fun _ _ _ => .ok ()) (.language "eng") [.call (.setOffset 500)]
    let after := outcome (fun _ _ _ => .ok ()) (.language "eng")
      [.call (.setOffset 500), .call .playbackStopped]
    after.state.rendering.offset = 500 ∧ ¬ResetsOffset before after := by
  intro before after
  have hoffset : after.state.rendering.offset = 500 := by decide
  refine ⟨hoffset, fun h => ?_⟩
  rw [h.1] at hoffset
  cases hoffset

end Manager

end Subtitler
