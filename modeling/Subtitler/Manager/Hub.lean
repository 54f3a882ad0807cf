import Subtitler.Broadcast
import Subtitler.Manager.Step
import Subtitler.Settings.Store

/-!
# The hub

The hub is where the manager meets all that goes on beside it: calls, ends of operations, what is
published, and changes of the settings, which are forwarded as calls. It works off one task after
the other, in the order in which they became ready. When the manager has its turn it takes all
calls first, then all ends of operations, then what was published.

An operation is a job of its own. On its first turn it asks the one who does the work; when the
answer is there, it hands it to the manager on its next turn. A job that is given up before that
drops the answer.
-/

namespace Subtitler

/-! ## Jobs -/

/-- How the work for a job ends: with an answer, or with none ever. -/
inductive Ending
  | completed (completion : Completion)
  | lost

/-- How far a job has come: before the work is asked for, which gives it a number; while nobody
knows how it ends; and after that, until its turn. -/
inductive JobStage
  | waiting
  | asked (number : Nat)
  | ended (number : Nat) (ending : Ending)

/-- An operation that the manager has started, and whether the manager has given it up since. -/
structure Job where
  epoch : Nat
  operation : Operation
  stage : JobStage := .waiting
  givenUp : Bool := false

namespace Job

/-- Whether a job fetches something. -/
def isFetch (job : Job) : Bool :=
  match job.operation with
  | .fetch _ _ => true
  | .pick => false

/-- The number of a job whose work was asked for. -/
def number? (job : Job) : Option Nat :=
  match job.stage with
  | .waiting => none
  | .asked number | .ended number _ => some number

/-- Whether a job has been asked for under a number and has not ended. -/
def isOpen (job : Job) (number : Nat) : Bool :=
  match job.stage with
  | .asked n => n == number
  | _ => false

end Job

/-- What has a turn. -/
inductive Task
  | manager
  | forwarder
  | job (epoch : Nat)
deriving DecidableEq, Repr

/-- What those who do the work get to see: a fetch with its number, a pick, and the number of a
fetch that nobody waits for any more. -/
inductive WorkNote
  | fetchAsked (number : Nat) (track : Track) (matcher : Matcher)
  | pickAsked (number : Nat)
  | fetchDropped (number : Nat)
deriving DecidableEq, Repr

/-! ## The hub -/

/-- The manager with all that waits for it. `heard` and `forwarded` are the manager's position on
the bus and the forwarder's position among the announcements, if the manager follows settings. -/
structure Hub where
  run : Run Manager
  bus : Broadcast BusEvent
  announcements : Broadcast Announcement := .ofCapacity 32
  heard : Nat := 0
  forwarded : Option Nat := none
  calls : List ManagerCall := []
  completions : List Completion := []
  jobs : List Job := []
  ready : List Task := []
  fetches : Nat := 0
  picks : Nat := 0
  notes : List WorkNote := []

/-- The call that follows from a change of the settings. -/
def Announcement.call? (a : Announcement) : Option ManagerCall :=
  match a.setting with
  | .defaultLanguage => some (.setPreference a.settings.preference)
  | .fontSize => some (.setSize a.settings.fontSize)
  | _ => none

namespace Hub

/-- A hub whose manager has the given preference, with a bus of the given capacity. -/
def start (preference : Preference) (capacity : Nat) : Hub :=
  { run := Manager.fresh preference, bus := .ofCapacity capacity }

/-- Makes a task ready, after those that are ready already. -/
def wake (hub : Hub) (task : Task) : Hub :=
  if hub.ready.contains task then hub else { hub with ready := hub.ready ++ [task] }

/-- Writes down something for those who do the work. -/
def note (hub : Hub) (entry : WorkNote) : Hub := { hub with notes := hub.notes ++ [entry] }

/-! ## What comes from outside -/

/-- Calls the manager. -/
def send (hub : Hub) (call : ManagerCall) : Hub :=
  { hub with calls := hub.calls ++ [call] }.wake .manager

/-- Publishes something. -/
def publish (hub : Hub) (event : BusEvent) : Hub :=
  { hub with bus := hub.bus.send event }.wake .manager

/-- Lets the manager follow the settings from now on. -/
def follow (hub : Hub) : Hub := { hub with forwarded := some hub.announcements.finish }

/-- Announces changes of the settings. -/
def announce (hub : Hub) (changes : List Announcement) : Hub :=
  let hub := { hub with announcements := changes.foldl .send hub.announcements }
  if hub.forwarded.isSome && !changes.isEmpty then hub.wake .forwarder else hub

/-- Changes the job of an epoch. -/
def changeJob (hub : Hub) (epoch : Nat) (f : Job → Job) : Hub :=
  { hub with jobs := hub.jobs.map fun job => if job.epoch = epoch then f job else job }

/-- The work for a numbered fetch or pick ends as `ending` says. Nothing happens if it has ended
before or if nobody waits for it. -/
def finish (hub : Hub) (fetch : Bool) (number : Nat) (ending : Job → Ending) : Hub :=
  match hub.jobs.find? fun job => job.isFetch == fetch && job.isOpen number with
  | some job =>
    (hub.changeJob job.epoch ({ · with stage := .ended number (ending job) })).wake (.job job.epoch)
  | none => hub

/-- A fetch ends with a result that may depend on the track. -/
def finishFetch (hub : Hub) (number : Nat) (result : Track → Except SubtitleError Subtitle) : Hub :=
  hub.finish true number fun job =>
    match job.operation with
    | .fetch track _ => .completed (.fetched job.epoch (result track))
    | .pick => .lost

/-- A fetch breaks down and never ends. -/
def loseFetch (hub : Hub) (number : Nat) : Hub := hub.finish true number fun _ => .lost

/-- A pick ends. -/
def finishPick (hub : Hub) (number : Nat) (track : Option Track) : Hub :=
  hub.finish false number fun job => .completed (.picked job.epoch track)

/-! ## Turns -/

/-- Adds a job, which is ready. -/
def addJob (hub : Hub) (job : Job) : Hub :=
  { hub with jobs := hub.jobs ++ [job] }.wake (.job job.epoch)

/-- What follows from an effect of the manager. -/
def react (hub : Hub) : Effect → Hub
  | .fetchStarted epoch track m => hub.addJob { epoch, operation := .fetch track m }
  | .pickStarted epoch => hub.addJob { epoch, operation := .pick }
  | .cancelled epoch => (hub.changeJob epoch ({ · with givenUp := true })).wake (.job epoch)
  | .published message => { hub with bus := hub.bus.send (.errorNotification message) }
  | _ => hub

/-- Lets the manager do something. -/
def advance (hub : Hub) (step : Run Manager → Run Manager) : Hub :=
  let run := step hub.run
  (run.effects.drop hub.run.effects.length).foldl react { hub with run }

/-- The message that the manager takes next. -/
def next? (hub : Hub) : Option (Message × Hub) :=
  match hub.calls, hub.completions, hub.bus.unread hub.heard with
  | call :: calls, _, _ => some (.call call, { hub with calls })
  | [], completion :: completions, _ => some (.completion completion, { hub with completions })
  | [], [], event :: _ =>
    let missed := hub.bus.missed hub.heard
    let run :=
      if missed = 0 then hub.run
      else hub.run.log .warn .manager s!"Subtitle manager missed {missed} playback events"
    some (.bus event, { hub with run, heard := hub.bus.resume hub.heard + 1 })
  | [], [], [] => none

variable (answers : Answers)

/-- Lets the manager take up to `fuel` messages. -/
def serve : Nat → Hub → Hub
  | 0, hub => hub
  | fuel + 1, hub =>
    match hub.next? with
    | some (message, hub) => serve fuel (hub.advance fun run => Manager.handle answers run message)
    | none => hub

/-- The manager's turn: it takes all messages. The end of an operation may put one more on the
bus. -/
def runManager (hub : Hub) : Hub :=
  serve answers
    (hub.calls.length + 2 * hub.completions.length + (hub.bus.unread hub.heard).length) hub

/-- The forwarder's turn: changes of the settings that concern the manager become calls. -/
def runForwarder (hub : Hub) : Hub :=
  match hub.forwarded with
  | none => hub
  | some position =>
    let missed := hub.announcements.missed position
    let run :=
      if missed = 0 then hub.run
      else hub.run.log .warn .manager s!"Missed {missed} subtitle setting events"
    let calls := (hub.announcements.unread position).filterMap Announcement.call?
    calls.foldl send { hub with run, forwarded := some hub.announcements.finish }

/-- Asks for the work of a job. -/
def ask (hub : Hub) (job : Job) : Hub :=
  match job.operation with
  | .fetch track m =>
    let number := hub.fetches + 1
    ({ hub with fetches := number }.changeJob job.epoch ({ · with stage := .asked number })).note
      (.fetchAsked number track m)
  | .pick =>
    let number := hub.picks + 1
    ({ hub with picks := number }.changeJob job.epoch ({ · with stage := .asked number })).note
      (.pickAsked number)

/-- Forgets a job. -/
def forget (hub : Hub) (job : Job) : Hub :=
  { hub with jobs := hub.jobs.filter (·.epoch != job.epoch) }

/-- The turn of a job. -/
def runJob (hub : Hub) (epoch : Nat) : Hub :=
  match hub.jobs.find? (·.epoch == epoch) with
  | none => hub
  | some job =>
    if job.givenUp then
      match job.number?.filter fun _ => job.isFetch with
      | some number => (hub.forget job).note (.fetchDropped number)
      | none => hub.forget job
    else
      match job.stage with
      | .waiting => hub.ask job
      | .asked _ => hub
      | .ended _ .lost => hub.forget job
      | .ended _ (.completed completion) =>
        { hub.forget job with completions := hub.completions ++ [completion] }.wake .manager

/-- The turn of a task. -/
def runTask (hub : Hub) : Task → Hub
  | .manager => hub.runManager answers
  | .forwarder => hub.runForwarder
  | .job epoch => hub.runJob epoch

/-- Gives up to `fuel` turns to tasks that are ready. -/
def work : Nat → Hub → Hub
  | 0, hub => hub
  | fuel + 1, hub =>
    match hub.ready with
    | [] => hub
    | task :: ready => work fuel (runTask answers { hub with ready } task)

/-- How much there is to do. -/
def load (hub : Hub) : Nat :=
  hub.calls.length + hub.completions.length + (hub.bus.unread hub.heard).length +
    (hub.announcements.unread (hub.forwarded.getD hub.announcements.finish)).length +
    hub.jobs.length + hub.ready.length

/-- Gives turns to tasks until none is ready. A message leads to at most two more turns, one for
the job that it gives up and one for the job that it starts. -/
def settle (hub : Hub) : Hub := work answers (8 * (hub.load + 1)) hub

/-- Ends the manager, which gives up the operation in flight. -/
def close (hub : Hub) : Hub := (hub.advance (Manager.cancelInFlight answers)).settle answers

end Hub

end Subtitler
