import Subtitler.Proofs.Manager.Operations
import Subtitler.Proofs.Manager.Renumbering

/-!
# After a stop

When a playback has stopped, the manager keeps the attached player, the preference, the size, and
the numbers that it has counted to. This is all that it keeps.

**Theorem (`stop_starts_anew`).** Whatever comes after the stop, the manager does what a new one
does that is given the same player, preference and size: the effects are the same, with other
numbers of the operations, and so are the snapshots, with another number of the session. Ends of
operations that were started before the stop may come in at any time, and are nothing to either of
them. A stop right after the first one does nothing.

The manager after the stop and the new one are both in the same state, up to the numbers. So each of
them goes on from it (`Manager.goingOn`), the one from all that was done up to the stop, the other
one from what it takes to attach the player and set the size, which calls no player.
-/

namespace Subtitler

open Ledger

/-! ## Messages after the start of an operation -/

/-- The end of an operation, with its number counted from `epoch` on. -/
def Completion.since (epoch : Nat) : Completion → Completion
  | fetched number result => fetched (number - epoch) result
  | picked number track => picked (number - epoch) track

/-- What a message is to someone who counts operations from `epoch` on: the ends of earlier ones are
nothing. -/
def Message.since? (epoch : Nat) : Message → Option Message
  | completion c => if c.epoch ≤ epoch then none else some (completion (c.since epoch))
  | message => some message

variable {shift : Shift}

theorem Message.renumber_since {message later : Message}
    (h : message.since? shift.epochs = some later) : later.renumber shift = message := by
  cases message with
  | completion c =>
    simp only [since?] at h
    split_ifs at h with hepoch
    cases h
    have hnumber : c.epoch - shift.epochs + shift.epochs = c.epoch := by omega
    cases c with
    | fetched number result =>
      exact congrArg (fun number => completion (.fetched number result)) hnumber
    | picked number track =>
      exact congrArg (fun number => completion (.picked number track)) hnumber
  | call | bus =>
    cases h
    rfl

theorem Message.of_since?_none {message : Message} {epoch : Nat}
    (h : message.since? epoch = none) : ∃ c, message = .completion c ∧ c.epoch ≤ epoch := by
  cases message with
  | completion c =>
    simp only [since?] at h
    split_ifs at h with hepoch
    exact ⟨c, rfl, hepoch⟩
  | call | bus => cases h

namespace Manager

variable (answers : Answers)

/-- Ends of operations that are over are nothing to the manager. -/
theorem handleAll_since {run : Run Manager} (h : ∀ epoch ≤ shift.epochs, (ledger run).Past epoch)
    (messages : List Message) :
    handleAll answers messages run =
      handleAll answers ((messages.filterMap (·.since? shift.epochs)).map (·.renumber shift))
        run := by
  induction messages generalizing run with
  | nil => rfl
  | cons message messages ih =>
    cases hsince : message.since? shift.epochs with
    | none =>
      obtain ⟨c, rfl, hepoch⟩ := Message.of_since?_none hsince
      have hnothing : handle answers run (.completion c) = run :=
        complete_of_not_isCurrent answers (h c.epoch hepoch).not_isCurrent
      rw [List.filterMap_cons_none hsince, ← ih h, handleAll, List.foldl_cons, hnothing]
      rfl
    | some later =>
      have hpast : ∀ epoch ≤ shift.epochs, (ledger (handle answers run message)).Past epoch :=
        fun epoch hepoch => (past_handleAll answers (h epoch hepoch) [message]).1
      rw [List.filterMap_cons_some hsince, List.map_cons, Message.renumber_since hsince]
      exact ih hpast

/-! ## A new manager -/

variable (run : Run Manager)

/-- A manager to which nothing has happened but that it was given the player and the size of
another one, and has its preference. -/
def anew : Run Manager :=
  outcome (answers.after run.effects) run.state.preference
    [.call (.setPlayer run.state.player), .call (.setSize run.state.size)]

/-- The numbers that a manager has counted to. -/
def counts : Shift := ⟨run.state.epoch, run.state.playbacks⟩

/-- Whatever comes later, a manager does what a new one does: the effects that are added are the
same up to the numbers of operations, and the snapshots up to the number of the session. The new one
does not get the ends of operations that the other one started before. -/
def ActsAnew : Prop :=
  ∀ later : List Message, ∃ trace : List Effect,
    let gone := handleAll answers later run
    let new := handleAll (answers.after run.effects)
      (later.filterMap (·.since? (counts run).epochs)) (anew answers run)
    gone.effects = run.effects ++ trace.map (·.renumber (counts run)) ∧
      new.effects = (anew answers run).effects ++ trace ∧
      gone.state.snapshot = new.state.snapshot.renumber (counts run)

/-! ## Going on after a stop -/

/-- The state of a new manager that has the player, the preference and the size of another one. -/
def kept : Manager :=
  { preference := run.state.preference, player := run.state.player, size := run.state.size }

/-- To give a new manager a player and a size, no player has to be called. -/
theorem anew_eq :
    ∃ told : List Effect, told.filterMap Effect.call? = [] ∧
      anew answers run = ⟨kept run, told⟩ := by
  have hattach : setPlayer (answers.after run.effects) run.state.player
      (fresh run.state.preference) =
        ⟨{ preference := run.state.preference, player := run.state.player }, []⟩ := rfl
  have hanew : anew answers run = setSize run.state.size
      ⟨{ preference := run.state.preference, player := run.state.player }, []⟩ :=
    congrArg (setSize run.state.size) hattach
  rw [hanew, setSize]
  split_ifs with h
  · exact ⟨[], rfl, by rw [kept, ← h]⟩
  · exact ⟨[.notified (.sizeChanged run.state.size)], rfl, rfl⟩

variable {run} in
/-- A manager that has stopped goes on from the state of a new one. -/
theorem goingOn_playbackStopped (h : run.state.session.isIdle = false) :
    let stopped := playbackStopped answers run
    stopped = goingOn (counts stopped) stopped.effects ⟨kept stopped, []⟩ := by
  intro stopped
  have hstate : stopped.state = _ := state_playbackStopped answers run h
  obtain ⟨state, effects⟩ := stopped
  subst hstate
  simp [Run.continued, renumber, Session.renumber, counts, kept]

variable {run} in
/-- What has already stopped is not stopped again. -/
theorem playbackStopped_playbackStopped (h : run.state.session.isIdle = false) :
    playbackStopped answers (playbackStopped answers run) = playbackStopped answers run := by
  have hstate := state_playbackStopped answers run h
  generalize playbackStopped answers run = stopped at hstate
  have hidle : (stopped.state.session.isIdle && stopped.state.rendering.active.isNone) = true := by
    rw [hstate]
    rfl
  exact if_pos hidle

/-- What was told before, without a call of a player, makes no difference. -/
theorem handleAll_told {told : List Effect} (h : told.filterMap Effect.call? = [])
    (messages : List Message) (m : Manager) :
    handleAll answers messages ⟨m, told⟩ =
      ⟨(handleAll answers messages ⟨m, []⟩).state,
        told ++ (handleAll answers messages ⟨m, []⟩).effects⟩ := by
  have hanswers : answers.after told = answers := funext fun calls => by
    rw [Answers.after, h, List.nil_append]
  have hgoing := handleAll_goingOn ⟨0, 0⟩ told answers ⟨m, []⟩ messages
  simpa [hanswers, Run.continued] using hgoing

variable {run} in
/-- A manager that goes on from the state of a new one does what the new one does. -/
theorem actsAnew_of_goingOn (h : run = goingOn (counts run) run.effects ⟨kept run, []⟩) :
    ActsAnew answers run := by
  intro later
  have hflight : (ledger run).inFlight = none := by
    rw [h]
    rfl
  have hpast : ∀ epoch ≤ (counts run).epochs, (ledger run).Past epoch := fun epoch hepoch =>
    ⟨hepoch, fun op hop => by
      rw [hflight] at hop
      cases hop⟩
  -- Both managers do what comes of taking the messages from the state that is kept.
  let core := handleAll (answers.after run.effects)
    (later.filterMap (·.since? (counts run).epochs)) ⟨kept run, []⟩
  have hgone : handleAll answers later run = goingOn (counts run) run.effects core := by
    rw [← handleAll_goingOn, ← h]
    exact handleAll_since answers hpast later
  obtain ⟨told, htold, hanew⟩ := anew_eq answers run
  have hnew := handleAll_told (answers.after run.effects) htold
    (later.filterMap (·.since? (counts run).epochs)) (kept run)
  rw [← hanew] at hnew
  refine ⟨core.effects, congrArg Run.effects hgone, ?_, ?_⟩
  · rw [hanew]
    exact congrArg Run.effects (hanew ▸ hnew)
  · rw [hgone, hnew]
    exact snapshot_renumber (counts run) core.state

/-- **A stop starts anew.** If something was played, selected or in flight when the playback
stopped, then the manager does from then on what a new one with the same player, preference and size
does. Another stop right after the first does nothing. -/
theorem stop_starts_anew (preference : Preference) (messages : List Message) (stop : Message)
    (hstop : stop.isStop = true)
    (hbusy : (outcome answers preference messages).state.session.isIdle = false) :
    let stopped := outcome answers preference (messages ++ [stop])
    ActsAnew answers stopped ∧
      ∀ again, again.isStop = true → handle answers stopped again = stopped := by
  intro stopped
  have heq : stopped = playbackStopped answers (outcome answers preference messages) := by
    rw [← handle_of_isStop answers _ hstop, ← outcome_concat]
  refine ⟨actsAnew_of_goingOn answers ?_, fun again hagain => ?_⟩
  · have hgoing := goingOn_playbackStopped answers hbusy
    rwa [← heq] at hgoing
  · rw [handle_of_isStop answers stopped hagain, heq]
    exact playbackStopped_playbackStopped answers hbusy

/-- A subtitle is rendered natively and moved in time, and while the player waits, the user picks
another one. -/
def pickingWhileRendered : List Message :=
  let track : Track := .language none "eng" []
  [.call (.setPlayer (some ⟨"mpv", true⟩)), .call (.setSize 40),
    .call (.playbackStarted ⟨"movie.mkv", some "720p", true, some track, []⟩),
    .completion (.fetched 1 (.ok ⟨"/tmp/movie.srt", some track, []⟩)), .call (.setOffset 500),
    .call (.select (.custom []))]

theorem stop_starts_anew_while_picking :
    let answers : Answers := fun _ _ _ => .ok ()
    let busy := outcome answers (.language "eng") pickingWhileRendered
    let stopped :=
      outcome answers (.language "eng") (pickingWhileRendered ++ [.bus .playbackStopped])
    Message.isStop (.bus .playbackStopped) = true ∧ busy.state.session.isIdle = false ∧
      ActsAnew answers stopped ∧
      ∀ again, again.isStop = true → handle answers stopped again = stopped := by
  intro answers busy stopped
  have hbusy : busy.state.session.isIdle = false := by decide
  exact ⟨rfl, hbusy, stop_starts_anew answers (.language "eng") pickingWhileRendered
    (.bus .playbackStopped) rfl hbusy⟩

end Manager

end Subtitler
