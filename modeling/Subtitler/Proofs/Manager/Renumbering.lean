import Mathlib.Tactic.SplitIfs
import Subtitler.Proofs.Manager.State

/-!
# Runs that go on from earlier effects

What a run from nothing does can also be done at the end of a longer one. There its operations and
playbacks have other numbers, since these are counted from the start of the longer run (`Shift`),
and all that was done earlier stands before its effects. Players remember earlier calls, so that
they answer in the run from nothing as they do after these calls (`Answers.after`). In all else the
two runs are the same.

**Theorem (`handleAll_goingOn`).** Taking messages does the same in both, up to the numbers.

Every part of which the handling of messages is put together has a lemma of this form: it commutes
with `goingOn`.
-/

namespace Subtitler

/-! ## Numbers -/

/-- By how much the numbers of operations and of playbacks differ. -/
structure Shift where
  epochs : Nat
  playbacks : Nat

variable (shift : Shift)

/-- An effect with other numbers of operations. -/
def Effect.renumber : Effect → Effect
  | fetchStarted epoch track m => fetchStarted (epoch + shift.epochs) track m
  | pickStarted epoch => pickStarted (epoch + shift.epochs)
  | cancelled epoch => cancelled (epoch + shift.epochs)
  | effect => effect

/-- The end of an operation with another number. -/
def Completion.renumber : Completion → Completion
  | fetched epoch result => fetched (epoch + shift.epochs) result
  | picked epoch track => picked (epoch + shift.epochs) track

/-- A message with another number, if it is the end of an operation. -/
def Message.renumber : Message → Message
  | completion c => completion (c.renumber shift)
  | message => message

/-- An operation in flight with another number. -/
def InFlight.renumber (op : InFlight) : InFlight := { op with epoch := op.epoch + shift.epochs }

/-- A session with other numbers. -/
def Session.renumber (session : Session) : Session :=
  { session with
    id := session.id.map (· + shift.playbacks)
    inFlight := session.inFlight.map (·.renumber shift) }

/-- A state with other numbers. -/
def Manager.renumber (m : Manager) : Manager :=
  { m with
    session := m.session.renumber shift
    epoch := m.epoch + shift.epochs
    playbacks := m.playbacks + shift.playbacks }

/-- A snapshot with another number of the playback. -/
def Snapshot.renumber (s : Snapshot) : Snapshot :=
  { s with session := s.session.map (· + shift.playbacks) }

@[simp] theorem Effect.call?_renumber (effect : Effect) :
    (effect.renumber shift).call? = effect.call? := by
  cases effect <;> rfl

@[simp] theorem Session.isIdle_renumber (session : Session) :
    (session.renumber shift).isIdle = session.isIdle := by
  simp [isIdle, renumber]

/-- A completion ends an operation under any numbers or under none. -/
@[simp] theorem Completion.endsOperation_renumber (c : Completion) (op : InFlight) :
    (c.renumber shift).endsOperation (op.renumber shift) = c.endsOperation op := by
  obtain ⟨number, operation⟩ := op
  have hnumber : ∀ a b : Nat, (a + shift.epochs == b + shift.epochs) = (a == b) := fun a b => by
    rw [Bool.eq_iff_iff]
    simp
  cases c <;> cases operation <;>
    simp [endsOperation, renumber, InFlight.renumber, epoch, hnumber]

/-! Nothing has another number when nothing has been counted. -/

@[simp] theorem Effect.renumber_zero (effect : Effect) : effect.renumber ⟨0, 0⟩ = effect := by
  cases effect <;> rfl

@[simp] theorem Message.renumber_zero (message : Message) : message.renumber ⟨0, 0⟩ = message := by
  cases message with
  | completion c => cases c <;> rfl
  | call | bus => rfl

@[simp] theorem Manager.renumber_zero (m : Manager) : m.renumber ⟨0, 0⟩ = m := by
  simp [renumber, Session.renumber, InFlight.renumber]

theorem Manager.snapshot_renumber (m : Manager) :
    (m.renumber shift).snapshot = m.snapshot.renumber shift := by
  simp [snapshot, renumber, Session.renumber, Snapshot.renumber]

/-! ## Earlier effects -/

/-- How players answer once earlier effects have been done. -/
def Answers.after (answers : Answers) (earlier : List Effect) : Answers :=
  fun calls => answers (earlier.filterMap Effect.call? ++ calls)

namespace Run

variable {σ : Type} (f : σ → σ) (earlier : List Effect) (answers : Answers) (run : Run σ)

/-- A run that goes on from earlier effects, with other numbers. -/
def continued : Run σ := ⟨f run.state, earlier ++ run.effects.map (·.renumber shift)⟩

/-- No call depends on a number. -/
theorem calls_continued :
    (run.continued shift f earlier).calls = earlier.filterMap Effect.call? ++ run.calls := by
  have hcomp : Effect.call? ∘ (·.renumber shift) = Effect.call? :=
    funext fun effect => effect.call?_renumber shift
  rw [calls, continued, List.filterMap_append, List.filterMap_map, hcomp, calls]

@[simp] theorem state_continued : (run.continued shift f earlier).state = f run.state := rfl

theorem emit_continued (effect : Effect) :
    (run.continued shift f earlier).emit (effect.renumber shift) =
      (run.emit effect).continued shift f earlier := by
  simp [continued, emit]

@[simp] theorem notify_continued (event : SubtitleEvent) :
    (run.continued shift f earlier).notify event =
      (run.notify event).continued shift f earlier :=
  emit_continued shift f earlier run (.notified event)

@[simp] theorem log_continued (level : LogLevel) (source : LogSource) (message : String) :
    (run.continued shift f earlier).log level source message =
      (run.log level source message).continued shift f earlier :=
  emit_continued shift f earlier run (.logged _)

theorem call_continued (player : AttachedPlayer) (call : PlayerCall) :
    (run.continued shift f earlier).call answers player call =
      ((run.call (answers.after earlier) player call).1.continued shift f earlier,
        (run.call (answers.after earlier) player call).2) := by
  have hanswer : answers (run.continued shift f earlier).calls player call =
      answers.after earlier run.calls player call := by
    rw [calls_continued]
    rfl
  unfold Run.call
  rw [hanswer]
  cases answers.after earlier run.calls player call with
  | ok _ => exact Prod.ext (emit_continued shift f earlier run (.called player call none)) rfl
  | error cause =>
    exact Prod.ext (emit_continued shift f earlier run (.called player call (some cause))) rfl

@[simp] theorem callOrWarn_continued (player : AttachedPlayer) (call : PlayerCall)
    (source : LogSource) (complaint : String → String) :
    (run.continued shift f earlier).callOrWarn answers player call source complaint =
      (run.callOrWarn (answers.after earlier) player call source complaint).continued
        shift f earlier := by
  unfold callOrWarn
  rw [call_continued]
  obtain ⟨called, answer⟩ := run.call (answers.after earlier) player call
  cases answer with
  | ok _ => rfl
  | error cause => exact called.log_continued shift f earlier _ _ _

end Run

/-! ## Rendering -/

namespace Rendering

variable (earlier : List Effect) (answers : Answers) (run : Run Rendering)

theorem modify_continued (g : Rendering → Rendering) :
    (run.continued shift id earlier).modify g = (run.modify g).continued shift id earlier := rfl

theorem offer_continued (player : AttachedPlayer) (subtitle : Subtitle) :
    offer answers player subtitle (run.continued shift id earlier) =
      (offer (answers.after earlier) player subtitle run).continued shift id earlier := by
  unfold offer
  rw [Run.call_continued]
  obtain ⟨called, answer⟩ := run.call (answers.after earlier) player (.subtitleFile subtitle.file)
  cases answer with
  | ok _ =>
    by_cases h : called.state.offset = 0
    · simp [modify_continued, h]
    · simp [modify_continued, h, forwardOffset]
  | error cause => simp

theorem activate_continued (player : Option AttachedPlayer) (subtitle : Subtitle) :
    activate answers player subtitle (run.continued shift id earlier) =
      (activate (answers.after earlier) player subtitle run).continued shift id earlier := by
  unfold activate
  cases player.filter (·.rendersFiles) with
  | none => simp [modify_continued]
  | some player =>
    simp only [modify_continued, offer_continued]
    exact Run.notify_continued ..

theorem redispatch_continued (player : Option AttachedPlayer) :
    redispatch answers player (run.continued shift id earlier) =
      (redispatch (answers.after earlier) player run).continued shift id earlier := by
  unfold redispatch
  rw [Run.state_continued, id]
  cases run.state.active with
  | none => rfl
  | some subtitle => exact activate_continued shift earlier answers run player subtitle

theorem deactivate_continued (player : Option AttachedPlayer) :
    deactivate answers player (run.continued shift id earlier) =
      (deactivate (answers.after earlier) player run).continued shift id earlier := by
  unfold deactivate
  simp only [Run.state_continued, id, modify_continued]
  cases player.filter fun _ => run.state.native with
  | none => simp
  | some player => simp [clearFile]

theorem detach_continued (player : AttachedPlayer) :
    detach answers player (run.continued shift id earlier) =
      (detach (answers.after earlier) player run).continued shift id earlier := by
  unfold detach
  simp only [Run.state_continued, id, modify_continued]
  by_cases h : run.state.native = true <;> simp [h, clearFile]

theorem setOffset_continued (player : Option AttachedPlayer) (offset : Int) :
    setOffset answers player offset (run.continued shift id earlier) =
      (setOffset (answers.after earlier) player offset run).continued shift id earlier := by
  unfold setOffset
  simp only [Run.state_continued, id, modify_continued]
  by_cases h : run.state.offset = offset
  · simp [h]
  · simp only [h, if_false]
    cases player.filter fun _ => (run.modify ({ · with offset })).state.native with
    | none => simp
    | some player => simp [forwardOffset]

end Rendering

/-! ## Parts of the manager -/

namespace Manager

variable (earlier : List Effect) (answers : Answers) (run : Run Manager)

/-- A run of the manager that goes on from earlier effects, with other numbers. -/
abbrev goingOn : Run Manager := run.continued shift (·.renumber shift) earlier

theorem render_goingOn {step fresh : Run Rendering → Run Rendering}
    (h : ∀ r : Run Rendering, step (r.continued shift id earlier) =
      (fresh r).continued shift id earlier) :
    render step (goingOn shift earlier run) = goingOn shift earlier (render fresh run) := by
  have hstep : step ⟨(goingOn shift earlier run).state.rendering,
      (goingOn shift earlier run).effects⟩ =
        (fresh ⟨run.state.rendering, run.effects⟩).continued shift id earlier := h ⟨_, run.effects⟩
  unfold render Run.within
  dsimp only
  rw [hstep]
  rfl

theorem hide_goingOn :
    hide answers (goingOn shift earlier run) =
      goingOn shift earlier (hide (answers.after earlier) run) :=
  render_goingOn shift earlier run fun r =>
    Rendering.deactivate_continued shift earlier answers r run.state.player

theorem pauseForPick_goingOn :
    pauseForPick answers (goingOn shift earlier run) =
      goingOn shift earlier (pauseForPick (answers.after earlier) run) := by
  have hplayer : (goingOn shift earlier run).state.player = run.state.player := rfl
  unfold pauseForPick
  rw [hplayer]
  cases run.state.player with
  | none => rfl
  | some player =>
    dsimp only
    rw [Run.callOrWarn_continued]
    rfl

theorem releasePause_goingOn :
    releasePause answers (goingOn shift earlier run) =
      goingOn shift earlier (releasePause (answers.after earlier) run) := by
  have hwaiting : (goingOn shift earlier run).state.session.waiting = run.state.session.waiting :=
    rfl
  unfold releasePause
  rw [hwaiting]
  cases run.state.session.waiting with
  | none => rfl
  | some player =>
    exact Run.callOrWarn_continued shift (renumber shift) earlier answers
      (inSession ({ · with waiting := none }) run) player .resume .picking _

/-- Operations are counted from the start of the longer run. -/
theorem launch_goingOn (operation : Operation) :
    launch operation (goingOn shift earlier run) =
      goingOn shift earlier (launch operation run) := by
  cases operation <;>
    simp [launch, inSession, Run.modify, Run.emit, Run.continued, renumber, Session.renumber,
      InFlight.renumber, Effect.renumber, Nat.add_right_comm]

theorem startFetch_goingOn (track : Track) :
    startFetch track (goingOn shift earlier run) =
      goingOn shift earlier (startFetch track run) := by
  have hmatcher : (goingOn shift earlier run).state.session.matcher = run.state.session.matcher :=
    rfl
  rw [startFetch, startFetch, hmatcher, launch_goingOn, Run.notify_continued]

theorem startPick_goingOn :
    startPick answers (goingOn shift earlier run) =
      goingOn shift earlier (startPick (answers.after earlier) run) := by
  rw [startPick, startPick, pauseForPick_goingOn, launch_goingOn]

theorem cancelInFlight_goingOn :
    cancelInFlight answers (goingOn shift earlier run) =
      goingOn shift earlier (cancelInFlight (answers.after earlier) run) := by
  have hflight : (goingOn shift earlier run).state.session.inFlight =
      run.state.session.inFlight.map (·.renumber shift) := rfl
  unfold cancelInFlight
  rw [hflight]
  cases run.state.session.inFlight with
  | none => exact releasePause_goingOn shift earlier answers run
  | some op =>
    have hemit := Run.emit_continued shift (renumber shift) earlier
      (inSession ({ · with inFlight := none }) run) (.cancelled op.epoch)
    rw [← releasePause_goingOn]
    exact congrArg (releasePause answers) hemit

/-! ## Messages -/

theorem beginSelection_goingOn (track : Track) :
    beginSelection answers track (goingOn shift earlier run) =
      goingOn shift earlier (beginSelection (answers.after earlier) track run) := by
  unfold beginSelection
  split_ifs
  · exact hide_goingOn shift earlier answers run
  · exact startPick_goingOn shift earlier answers run
  · exact startFetch_goingOn shift earlier run track

theorem applySelection_goingOn (track : Track) :
    applySelection answers track (goingOn shift earlier run) =
      goingOn shift earlier (applySelection (answers.after earlier) track run) := by
  unfold applySelection
  dsimp only
  rw [cancelInFlight_goingOn]
  exact beginSelection_goingOn shift earlier answers
    (inSession ({ · with selection := some track }) _) track

theorem resetSession_goingOn (player : Option AttachedPlayer) :
    resetSession answers player (goingOn shift earlier run) =
      goingOn shift earlier (resetSession (answers.after earlier) player run) := by
  have hcancel := cancelInFlight_goingOn shift earlier answers
    (inSession ({ · with waiting := none }) run)
  unfold resetSession
  dsimp only
  rw [← render_goingOn shift earlier _ fun r =>
    Rendering.deactivate_continued shift earlier answers r player]
  exact congrArg (fun cancelled => render _ (inSession (fun _ => {}) cancelled)) hcancel

/-- Playbacks are counted from the start of the longer run. -/
theorem playbackStarted_goingOn (request : PlayRequest) :
    playbackStarted answers request (goingOn shift earlier run) =
      goingOn shift earlier (playbackStarted (answers.after earlier) request run) := by
  have hidle : (goingOn shift earlier run).state.session.isIdle = run.state.session.isIdle :=
    Session.isIdle_renumber shift _
  have hplayer : (goingOn shift earlier run).state.player = run.state.player := rfl
  have hopen (r : Run Manager) :
      (goingOn shift earlier r).modify (fun m =>
        { m with
          playbacks := m.playbacks + 1
          session := { m.session with
            id := some (m.playbacks + 1), url := some request.url, quality := request.quality } }) =
      goingOn shift earlier (r.modify fun m =>
        { m with
          playbacks := m.playbacks + 1
          session := { m.session with
            id := some (m.playbacks + 1), url := some request.url,
            quality := request.quality } }) := by
    simp [Run.modify, Run.continued, renumber, Session.renumber, Nat.add_right_comm]
  unfold playbackStarted
  rw [hidle, hplayer, resetSession_goingOn, ← apply_ite (goingOn shift earlier)]
  dsimp only
  rw [hopen, applySelection_goingOn]
  rfl

theorem playbackStopped_goingOn :
    playbackStopped answers (goingOn shift earlier run) =
      goingOn shift earlier (playbackStopped (answers.after earlier) run) := by
  have hidle : (goingOn shift earlier run).state.session.isIdle = run.state.session.isIdle :=
    Session.isIdle_renumber shift _
  have hactive : (goingOn shift earlier run).state.rendering.active = run.state.rendering.active :=
    rfl
  unfold playbackStopped
  rw [hidle, hactive]
  split_ifs
  · rfl
  · rw [resetSession_goingOn]
    exact render_goingOn shift earlier _ fun r =>
      Rendering.setOffset_continued shift earlier answers r none 0

theorem setPlayer_goingOn (player : Option AttachedPlayer) :
    setPlayer answers player (goingOn shift earlier run) =
      goingOn shift earlier (setPlayer (answers.after earlier) player run) := by
  have hdetach (previous : AttachedPlayer) (r : Run Manager) :
      render (Rendering.detach answers previous) (goingOn shift earlier r) =
        goingOn shift earlier (render (Rendering.detach (answers.after earlier) previous) r) :=
    render_goingOn shift earlier r fun r =>
      Rendering.detach_continued shift earlier answers r previous
  have hredispatch (r : Run Manager) :
      render (Rendering.redispatch answers player) (goingOn shift earlier r) =
        goingOn shift earlier (render (Rendering.redispatch (answers.after earlier) player) r) :=
    render_goingOn shift earlier r fun r =>
      Rendering.redispatch_continued shift earlier answers r player
  have hattach : (goingOn shift earlier run).modify ({ · with player }) =
      goingOn shift earlier (run.modify ({ · with player })) := rfl
  have hplayer : (goingOn shift earlier run).state.player = run.state.player := rfl
  have hnative : (goingOn shift earlier run).state.rendering.native = run.state.rendering.native :=
    rfl
  unfold setPlayer
  rw [hplayer, hnative, hattach]
  cases run.state.player.filter fun previous => some previous != player with
  | none =>
    dsimp only
    rw [hredispatch, ← apply_ite (goingOn shift earlier)]
    rfl
  | some previous =>
    -- The condition asks for the run after the detaching, so that it has to be rewritten as well.
    simp only [hdetach, hredispatch]
    rw [← apply_ite (goingOn shift earlier)]
    rfl

theorem setPreference_goingOn (preference : Preference) :
    setPreference answers preference (goingOn shift earlier run) =
      goingOn shift earlier (setPreference (answers.after earlier) preference run) := by
  have happly := applySelection_goingOn shift earlier answers
    (run.modify ({ · with preference })) .none
  have hid : ((goingOn shift earlier run).modify ({ · with preference })).state.session.id.isSome =
      (run.modify ({ · with preference })).state.session.id.isSome := Option.isSome_map ..
  have hselection :
      ((goingOn shift earlier run).modify ({ · with preference })).state.session.selection =
        (run.modify ({ · with preference })).state.session.selection := rfl
  unfold setPreference
  dsimp only
  rw [hid, hselection]
  split_ifs
  · exact happly
  · rfl

theorem setSize_goingOn (size : UInt32) :
    setSize size (goingOn shift earlier run) = goingOn shift earlier (setSize size run) := by
  have hsize : (goingOn shift earlier run).state.size = run.state.size := rfl
  unfold setSize
  rw [hsize]
  split_ifs
  · rfl
  · exact Run.notify_continued shift (renumber shift) earlier (run.modify ({ · with size })) _

theorem fetchCompleted_goingOn (result : Except SubtitleError Subtitle) :
    fetchCompleted answers result (goingOn shift earlier run) =
      goingOn shift earlier (fetchCompleted (answers.after earlier) result run) := by
  unfold fetchCompleted
  cases result with
  | ok subtitle =>
    have hplayer : (goingOn shift earlier run).state.player = run.state.player := rfl
    dsimp only
    rw [hplayer, render_goingOn shift earlier run fun r =>
      Rendering.activate_continued shift earlier answers r run.state.player subtitle]
    exact releasePause_goingOn shift earlier answers _
  | error cause =>
    have hpublish (r : Run Manager) :
        (goingOn shift earlier r).emit (.published fetchFailedMessage) =
          goingOn shift earlier (r.emit (.published fetchFailedMessage)) :=
      Run.emit_continued shift (renumber shift) earlier r (.published _)
    dsimp only
    rw [Run.log_continued, hpublish, Run.notify_continued, ← releasePause_goingOn,
      ← hide_goingOn]
    rfl

theorem pickCompleted_goingOn (picked : Option Track) :
    pickCompleted answers picked (goingOn shift earlier run) =
      goingOn shift earlier (pickCompleted (answers.after earlier) picked run) := by
  unfold pickCompleted
  cases picked.filter fun track => !track.isNone && !track.needsPick with
  | none =>
    dsimp only
    rw [← releasePause_goingOn, ← hide_goingOn]
    rfl
  | some track =>
    dsimp only
    rw [← startFetch_goingOn]
    rfl

theorem complete_goingOn (completion : Completion) :
    complete answers (completion.renumber shift) (goingOn shift earlier run) =
      goingOn shift earlier (complete (answers.after earlier) completion run) := by
  have hcurrent : (goingOn shift earlier run).state.session.inFlight.any
      (completion.renumber shift).endsOperation =
        run.state.session.inFlight.any completion.endsOperation := by
    show (run.state.session.inFlight.map (·.renumber shift)).any _ = _
    cases run.state.session.inFlight <;> simp
  unfold complete
  rw [hcurrent]
  split_ifs
  · cases completion with
    | fetched epoch result =>
      exact fetchCompleted_goingOn shift earlier answers
        (inSession ({ · with inFlight := none }) run) result
    | picked epoch track =>
      exact pickCompleted_goingOn shift earlier answers
        (inSession ({ · with inFlight := none }) run) track
  · rfl

/-- **Taking a message** does the same after earlier effects as from nothing. -/
theorem handle_goingOn (message : Message) :
    handle answers (goingOn shift earlier run) (message.renumber shift) =
      goingOn shift earlier (handle (answers.after earlier) run message) := by
  cases message with
  | call call =>
    cases call with
    | playbackStarted request => exact playbackStarted_goingOn shift earlier answers run request
    | playbackStopped => exact playbackStopped_goingOn shift earlier answers run
    | select track => exact applySelection_goingOn shift earlier answers run track
    | setPlayer player => exact setPlayer_goingOn shift earlier answers run player
    | setPreference preference =>
      exact setPreference_goingOn shift earlier answers run preference
    | setOffset offset =>
      exact render_goingOn shift earlier run fun r =>
        Rendering.setOffset_continued shift earlier answers r run.state.player offset
    | setSize size => exact setSize_goingOn shift earlier run size
  | completion c => exact complete_goingOn shift earlier answers run c
  | bus event =>
    cases event with
    | playbackStarted request => exact playbackStarted_goingOn shift earlier answers run request
    | playbackStopped => exact playbackStopped_goingOn shift earlier answers run
    | errorNotification message => rfl

/-- **Taking messages** does the same after earlier effects as from nothing, up to the numbers. -/
theorem handleAll_goingOn (messages : List Message) :
    handleAll answers (messages.map (·.renumber shift)) (goingOn shift earlier run) =
      goingOn shift earlier (handleAll (answers.after earlier) messages run) := by
  induction messages generalizing run with
  | nil => rfl
  | cons message messages ih =>
    rw [List.map_cons, handleAll, List.foldl_cons, handle_goingOn]
    exact ih (handle (answers.after earlier) run message)

end Manager

end Subtitler
