import Subtitler.Manager.Basic

/-!
# What the manager does

The manager takes one message after the other. A new selection supersedes the operation in flight;
the end of an operation counts only while that operation is in flight. While the user picks, the
player is paused, and it is resumed when the pick and the fetch of what was picked are over; the
end of a playback resumes nothing.
-/

namespace Subtitler.Manager

variable (answers : Answers)

/-- What is published when a fetch fails. -/
def fetchFailedMessage : String := "Failed to load the subtitle for the video playback"

/-! ## Parts of the state -/

/-- Changes the session. -/
def inSession (f : Session → Session) (run : Run Manager) : Run Manager :=
  run.modify fun m => { m with session := f m.session }

/-- Lets the rendering run. -/
def render (step : Run Rendering → Run Rendering) (run : Run Manager) : Run Manager :=
  run.within (·.rendering) (fun rendering m => { m with rendering }) step

/-- Shows nothing any more on the attached player. -/
def hide (run : Run Manager) : Run Manager :=
  render (Rendering.deactivate answers run.state.player) run

/-! ## Pausing -/

/-- Pauses the attached player until the pick is over. -/
def pauseForPick (run : Run Manager) : Run Manager :=
  let player := run.state.player
  let run :=
    match player with
    | some player =>
      run.callOrWarn answers player .pause .picking fun cause =>
        s!"Failed to pause {player.name}, {cause}"
    | none => run
  inSession ({ · with waiting := player }) run

/-- Resumes the player that waits for a pick, whichever player is attached now. -/
def releasePause (run : Run Manager) : Run Manager :=
  match run.state.session.waiting with
  | none => run
  | some player =>
    (inSession ({ · with waiting := none }) run).callOrWarn answers player .resume .picking
      fun cause => s!"Failed to resume {player.name}, {cause}"

/-! ## Operations -/

/-- Numbers an operation and puts it in flight. -/
def launch (operation : Operation) (run : Run Manager) : Run Manager :=
  let epoch := run.state.epoch + 1
  let run := run.modify ({ · with epoch })
  let run :=
    run.emit
      (match operation with
      | .fetch track m => .fetchStarted epoch track m
      | .pick => .pickStarted epoch)
  inSession ({ · with inFlight := some ⟨epoch, operation⟩ }) run

/-- Starts fetching a track for what is played. -/
def startFetch (track : Track) (run : Run Manager) : Run Manager :=
  (launch (.fetch track run.state.session.matcher) run).notify (.downloading track)

/-- Lets the user pick a file, while the player is paused. -/
def startPick (run : Run Manager) : Run Manager := launch .pick (pauseForPick answers run)

/-- Gives up the operation in flight. -/
def cancelInFlight (run : Run Manager) : Run Manager :=
  let run :=
    match run.state.session.inFlight with
    | some ⟨epoch, _⟩ => (inSession ({ · with inFlight := none }) run).emit (.cancelled epoch)
    | none => run
  releasePause answers run

/-- Begins with a track that is now selected. -/
def beginSelection (track : Track) (run : Run Manager) : Run Manager :=
  if track.isNone then hide answers run
  else if track.needsPick then startPick answers run
  else startFetch track run

/-- Selects a track, in place of whatever is in flight. -/
def applySelection (track : Track) (run : Run Manager) : Run Manager :=
  let run := cancelInFlight answers run
  beginSelection answers track (inSession ({ · with selection := some track }) run)

/-! ## Playbacks -/

/-- Ends the session, taking a native subtitle from `player`. Nobody is resumed. -/
def resetSession (player : Option AttachedPlayer) (run : Run Manager) : Run Manager :=
  let run := cancelInFlight answers (inSession ({ · with waiting := none }) run)
  render (Rendering.deactivate answers player) (inSession (fun _ => {}) run)

/-- A playback has started. It ends the one before, on the same player. -/
def playbackStarted (request : PlayRequest) (run : Run Manager) : Run Manager :=
  let run :=
    if run.state.session.isIdle then run else resetSession answers run.state.player run
  let run := run.modify fun m =>
    { m with
      playbacks := m.playbacks + 1
      session := { m.session with
        id := some (m.playbacks + 1), url := some request.url, quality := request.quality } }
  applySelection answers (run.state.preference.resolve request) run

/-- The playback has stopped, and its player has closed. The offset goes back to zero. -/
def playbackStopped (run : Run Manager) : Run Manager :=
  if run.state.session.isIdle && run.state.rendering.active.isNone then run
  else render (Rendering.setOffset answers none 0) (resetSession answers none run)

/-! ## Players, preference and size -/

/-- Attaches another player, or none. What is shown moves on to it. -/
def setPlayer (player : Option AttachedPlayer) (run : Run Manager) : Run Manager :=
  let replaced := run.state.player.filter fun previous => some previous != player
  let detached := replaced.isSome && run.state.rendering.native
  let run := run.modify ({ · with player })
  let run :=
    match replaced with
    | some previous => render (Rendering.detach answers previous) run
    | none => run
  if run.state.rendering.active.isSome && (player.isSome || detached) then
    render (Rendering.redispatch answers player) run
  else run

/-- Changes the preference. Disabling subtitles hides those that are shown or under way. -/
def setPreference (preference : Preference) (run : Run Manager) : Run Manager :=
  let run := run.modify ({ · with preference })
  let session := run.state.session
  let enabled := session.selection.any fun track => !track.isNone
  if preference = .disabled && session.id.isSome && enabled then applySelection answers .none run
  else run

/-- Changes the size. -/
def setSize (size : UInt32) (run : Run Manager) : Run Manager :=
  if run.state.size = size then run
  else (run.modify ({ · with size })).notify (.sizeChanged size)

/-! ## Ends of operations -/

/-- A fetch has ended: the subtitle is shown, or the user is told that there is none. -/
def fetchCompleted (result : Except SubtitleError Subtitle) (run : Run Manager) : Run Manager :=
  let run :=
    match result with
    | .ok subtitle => render (Rendering.activate answers run.state.player subtitle) run
    | .error cause =>
      let reason := cause.message
      let run := run.log .error .manager s!"Video subtitle failed, {reason}"
      let run := (run.emit (.published fetchFailedMessage)).notify (.failed reason)
      hide answers (inSession ({ · with selection := some .none }) run)
  releasePause answers run

/-- A pick has ended: the picked file is fetched while the player stays paused, or there are no
subtitles. -/
def pickCompleted (picked : Option Track) (run : Run Manager) : Run Manager :=
  match picked.filter fun track => !track.isNone && !track.needsPick with
  | some track => startFetch track (inSession ({ · with selection := some track }) run)
  | none =>
    releasePause answers (hide answers (inSession ({ · with selection := some .none }) run))

/-- An operation has ended. Nothing happens unless it is the one in flight. -/
def complete (completion : Completion) (run : Run Manager) : Run Manager :=
  if run.state.session.inFlight.any completion.endsOperation then
    let run := inSession ({ · with inFlight := none }) run
    match completion with
    | .fetched _ result => fetchCompleted answers result run
    | .picked _ track => pickCompleted answers track run
  else run

/-! ## Messages -/

/-- A call. -/
def call (call : ManagerCall) (run : Run Manager) : Run Manager :=
  match call with
  | .playbackStarted request => playbackStarted answers request run
  | .playbackStopped => playbackStopped answers run
  | .select track => applySelection answers track run
  | .setPlayer player => setPlayer answers player run
  | .setPreference preference => setPreference answers preference run
  | .setOffset offset => render (Rendering.setOffset answers run.state.player offset) run
  | .setSize size => setSize size run

/-- Something that was published. Messages for the user are none for the manager. -/
def hear (event : BusEvent) (run : Run Manager) : Run Manager :=
  match event with
  | .playbackStarted request => playbackStarted answers request run
  | .playbackStopped => playbackStopped answers run
  | .errorNotification _ => run

/-- Takes a message. -/
def handle (run : Run Manager) : Message → Run Manager
  | .call c => call answers c run
  | .completion c => complete answers c run
  | .bus event => hear answers event run

/-- Takes messages one after the other. -/
def handleAll (messages : List Message) (run : Run Manager) : Run Manager :=
  messages.foldl (handle answers) run

/-- A manager to which nothing has happened. -/
def fresh (preference : Preference) : Run Manager := ⟨{ preference }, []⟩

end Subtitler.Manager
