import Subtitler.Preference
import Subtitler.Rendering

/-!
# The state of the manager

The manager decides which subtitle belongs to what is played. A session lasts from the start of a
playback to its stop; within it, at most one operation is in flight, a fetch or a pick of the user.
Operations are numbered by epochs, which are never used twice.
-/

namespace Subtitler

/-! ## Operations -/

/-- An operation that takes time: fetching the file of a track, or letting the user pick one. -/
inductive Operation
  | fetch (track : Track) (matcher : Matcher)
  | pick
deriving DecidableEq, Repr

/-- An operation in flight, with its epoch. -/
structure InFlight where
  epoch : Nat
  operation : Operation
deriving DecidableEq, Repr

/-- The end of the operation of an epoch. A pick that was given up or failed has no track. -/
inductive Completion
  | fetched (epoch : Nat) (result : Except SubtitleError Subtitle)
  | picked (epoch : Nat) (track : Option Track)

namespace Completion

/-- The epoch of the operation that has ended. -/
def epoch : Completion → Nat
  | fetched epoch _ => epoch
  | picked epoch _ => epoch

/-- Whether this is the end of the operation in flight: its epoch and its kind are the same. -/
def endsOperation (completion : Completion) (inFlight : InFlight) : Bool :=
  completion.epoch == inFlight.epoch &&
    match completion, inFlight.operation with
    | fetched _ _, .fetch _ _ => true
    | picked _ _, .pick => true
    | _, _ => false

end Completion

/-! ## The state -/

/-- What belongs to one playback: its number, its address and quality, the selected track, the
operation in flight, and the player that waits for a pick. -/
structure Session where
  id : Option Nat := none
  url : Option String := none
  quality : Option String := none
  selection : Option Track := none
  inFlight : Option InFlight := none
  waiting : Option AttachedPlayer := none
deriving DecidableEq, Repr

/-- Whether nothing is played, selected or in flight. -/
def Session.isIdle (session : Session) : Bool :=
  session.id.isNone && session.inFlight.isNone && session.selection.isNone

/-- The matcher of what is played. -/
def Session.matcher (session : Session) : Matcher := .ofPlayback session.url session.quality

/-- The state of the manager. `epoch` and `playbacks` count the operations and the playbacks that
were ever started. -/
structure Manager where
  preference : Preference
  rendering : Rendering := {}
  player : Option AttachedPlayer := none
  session : Session := {}
  epoch : Nat := 0
  playbacks : Nat := 0
  size : UInt32 := 28
deriving DecidableEq, Repr

/-- What can be seen of the manager at one moment. -/
structure Snapshot where
  session : Option Nat
  url : Option String
  quality : Option String
  selection : Option Track
  inFlight : Bool
  activeFile : Option String
  native : Bool
  offset : Int
  size : UInt32
  preference : Preference
deriving DecidableEq, Repr

/-- The snapshot of a state. -/
def Manager.snapshot (m : Manager) : Snapshot :=
  { session := m.session.id
    url := m.session.url
    quality := m.session.quality
    selection := m.session.selection
    inFlight := m.session.inFlight.isSome
    activeFile := m.rendering.active.map (·.file)
    native := m.rendering.native
    offset := m.rendering.offset
    size := m.size
    preference := m.preference }

/-! ## Messages -/

/-- A call of the manager. -/
inductive ManagerCall
  | playbackStarted (request : PlayRequest)
  | playbackStopped
  | select (track : Track)
  | setPlayer (player : Option AttachedPlayer)
  | setPreference (preference : Preference)
  | setOffset (offset : Int)
  | setSize (size : UInt32)
deriving DecidableEq, Repr

/-- What players and the manager publish for everybody. -/
inductive BusEvent
  | playbackStarted (request : PlayRequest)
  | playbackStopped
  | errorNotification (message : String)
deriving DecidableEq, Repr

/-- A message to the manager. -/
inductive Message
  | call (call : ManagerCall)
  | completion (completion : Completion)
  | bus (event : BusEvent)

end Subtitler
