import Subtitler.Client.Fetch
import Subtitler.CommandLine.Command
import Subtitler.Manager.Step
import Subtitler.Player.Control
import Subtitler.Program.Basic
import Subtitler.Prompt

/-!
# Playing

The program looks up subtitles, starts a player, and tells the manager what is played and what the
command says about subtitles. It does the work that the manager starts: it fetches, and it asks the
user for a file. When the player has ended, it says what was shown.
-/

namespace Subtitler.Program

open CommandLine

/-! ## What the command says -/

/-- The preference for this playback: a language that the command names comes before the
settings. -/
def preferenceFor (command : PlayCommand) (store : SettingsStore) : Preference :=
  match command.lang with
  | some code => .language code
  | none => store.preference

/-- The request to play, with the tracks that are available. -/
def requestFor (command : PlayCommand) (available : List Track) : PlayRequest :=
  { url := command.url
    quality := command.quality
    subtitlesEnabled := !command.noSubtitles
    subtitle := if command.custom then some (.custom []) else none
    available }

/-- The calls with which a playback begins. A file of the user's own is a choice of the user, which
is made also when the preference disables subtitles. -/
def openingCalls (command : PlayCommand) (preference : Preference) (available : List Track)
    (player : AttachedPlayer) : List ManagerCall :=
  [.setPlayer (some player), .playbackStarted (requestFor command available)] ++
    (if command.custom && preference = .disabled then [.select (.custom [])] else []) ++
    (if command.offset = 0 then [] else [.setOffset command.offset])

/-- The calls with which a playback ends. -/
def closingCalls : List ManagerCall := [.playbackStopped, .setPlayer none]

/-! ## What is written -/

/-- The line of the log for an event. -/
def eventEntry : SubtitleEvent → LogEntry
  | .downloading track =>
    let track := track.display
    ⟨.info, .commands, s!"Loading subtitle {track}"⟩
  | .activated subtitle =>
    let shown := subtitle.display
    ⟨.info, .commands, s!"Showing subtitle {shown} ({subtitle.cues.length} cues)"⟩
  | .nativeActivated file => ⟨.info, .commands, s!"Player renders subtitle {file}"⟩
  | .disabled => ⟨.info, .commands, "Subtitle disabled"⟩
  | .failed reason => ⟨.warn, .commands, s!"Subtitle failed, {reason}"⟩
  | .sizeChanged size =>
    let size := size.toNat
    ⟨.info, .commands, s!"Subtitle size {size}"⟩
  | .offsetChanged offset => ⟨.info, .commands, s!"Subtitle offset {offset}ms"⟩

/-- What is written to standard error when something is done. -/
def effectText (output : Output) : Effect → String
  | .notified event => (eventEntry event).line ++ "\n"
  | .logged entry => entry.line ++ "\n"
  | .published message => (output.info message).err
  | .wrote text => text
  | _ => ""

/-- What is written to standard error in the course of a run. -/
def runText (output : Output) (run : Run Manager) : String :=
  String.join (run.effects.map (effectText output))

/-! ## A playback -/

/-- A playback of the program: the manager, the files, what the user has yet to type, and the
addresses asked for. -/
structure Playback where
  run : Run Manager
  files : FileTree
  input : List UInt8
  asked : List String

namespace Playback

variable (answers : Answers)

/-- Calls the manager. -/
def send (calls : List ManagerCall) (p : Playback) : Playback :=
  { p with run := Manager.handleAll answers (calls.map .call) p.run }

/-- Does the work of the operation in flight, if there is one, and tells the manager. -/
def attend (client : Client) (web : Web) (p : Playback) : Playback :=
  match p.run.state.session.inFlight with
  | none => p
  | some ⟨epoch, .fetch track m⟩ =>
    let done := client.fetch web p.files track m
    { p with
      files := done.tree
      asked := p.asked ++ done.asked
      run := Manager.complete answers (.fetched epoch done.result) p.run }
  | some ⟨epoch, .pick⟩ =>
    let answer := Prompt.ask p.files p.input
    let run := p.run.emit (.wrote answer.written)
    { p with
      input := answer.rest
      run := Manager.complete answers (.picked epoch answer.pick) run }

/-- Does all work. A pick may lead to a fetch, and a fetch to nothing. -/
def attendAll (client : Client) (web : Web) (p : Playback) : Playback :=
  attend answers client web (attend answers client web p)

end Playback

/-! ## The parts of the command -/

/-- The tracks that are available for the medium that the command names, the addresses asked for,
and what is done meanwhile. A medium whose tracks cannot be had is played without them. -/
def lookUp (s : Surroundings) (client : Client) (output : Output) (command : PlayCommand) :
    List Track × List String × List Effect :=
  match command.media? with
  | none => ([], [], [])
  | some media =>
    let listed := client.list s.web media
    let id := media.imdbId
    let started := Effect.wrote (output.info s!"Looking up subtitles for {id}...").err
    match listed.result with
    | .ok tracks => (tracks, listed.asked, [started])
    | .error cause =>
      let cause := cause.message
      ([], listed.asked,
        [started,
          .logged ⟨.warn, .commands, s!"Failed to retrieve available subtitles, {cause}"⟩,
          .wrote (output.info "Subtitles unavailable, playing without them").err])

/-- How the started player answers. -/
def playerAnswers (s : Surroundings) (kind : PlayerKind) : Answers := fun calls _ call =>
  Player.answer kind (s.channel.map fun stream => stream calls.length) call

/-- What was played, given the state in which the player ended. -/
def summary (kind : PlayerKind) (url : String) (ended : Snapshot) : PlaybackSummary :=
  { player := kind.display
    url
    subtitle := (ended.selection.filter (!·.isNone)).map Track.display
    subtitleFile := ended.activeFile
    native := ended.native }

/-- Removes the cache if the settings say so. What goes wrong is only logged. -/
def tidy (client : Client) (settings : SubtitleSettings) (p : Playback) : Playback :=
  if settings.autoCleaning then
    match client.cleanUp p.files with
    | (files, .ok ()) => { p with files }
    | (files, .error cause) =>
      let cause := cause.message
      { p with
        files
        run := p.run.log .warn .commands s!"Failed to clean the subtitle directory, {cause}" }
  else p

/-- How a playback ends whose player could not be started. -/
def launchFailure (s : Surroundings) (output : Output) (cause : PlayerError) : Outcome :=
  let message := cause.message
  match cause with
  | .notFound _ => failure s output message .playerNotFound
  | _ => failure s output s!"Failed to start player: {message}" .playbackFailed

/-- A playback from the start of its player to the end. -/
def playWith (s : Surroundings) (output : Output) (command : PlayCommand) (kind : PlayerKind)
    (store : SettingsStore) (launched : List String) (available : List Track) (p : Playback) :
    Outcome :=
  let settings := store.settings.subtitles
  let client : Client := ⟨Client.defaultServer, settings.directory⟩
  let answers := playerAnswers s kind
  let run :=
    if kind.isReady s.channel.isSome 5000 then p.run
    else
      p.run.log .warn .commands
        s!"{kind.display} control channel isn't ready, subtitles fall back to the overlay"
  let calls :=
    openingCalls command (preferenceFor command store) available ⟨kind.display, kind.rendersFiles⟩
  let p := (({ p with run }.send answers calls).attendAll answers client s.web)
  let ended := p.run.state.snapshot
  let p := tidy client settings (p.send answers closingCalls)
  let outcome : Outcome :=
    { exit := .success
      written := output.print (summary kind command.url ended).toJson
      files := p.files
      asked := p.asked
      launched := some launched
      commands := p.run.calls.filterMap fun call => Player.sent? kind s.channel.isSome call.2 }
  outcome.after (runText output p.run)

/-- Plays something. -/
def play (s : Surroundings) (given : Option String) (output : Output) (command : PlayCommand) :
    Outcome :=
  let store := openSettings s given
  let settings := store.settings.subtitles
  let kind := command.player.getD store.settings.playerKind
  if !command.imdb.all isImdbId then failure s output imdbIdMessage .invalidArguments
  else if !s.installed kind then
    failure s output s!"{kind.display} not found. Install it first." .playerNotFound
  else
    let client : Client := ⟨Client.defaultServer, settings.directory⟩
    let (available, asked, effects) := lookUp s client output command
    let fresh := Manager.fresh (preferenceFor command store)
    let run := Manager.setSize settings.fontSize { fresh with effects }
    let opening := (output.info s!"Opening in {kind.display}...").err
    let run := run.emit (.wrote opening)
    match kind.launch s.files s.programs command.url none s.channelPath with
    | .error cause => { launchFailure s output cause with asked }.after (runText output run)
    | .ok launched =>
      playWith s output command kind store launched available ⟨run, s.files, s.input, asked⟩

end Subtitler.Program
