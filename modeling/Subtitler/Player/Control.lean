import Subtitler.Json.Printer
import Subtitler.Json.Reader
import Subtitler.Json.Record
import Subtitler.Player.Call
import Subtitler.Player.Kind
import Subtitler.Text.Split
import Subtitler.Text.Utf8

/-!
# Controlling a player

A call goes over the control channel as a line of JSON. What comes back is a stream of lines, in
which reports of events may come before the reply: the reply is the first line that reads as one
and reports no event. Lines that do not read as either are passed over.
-/

namespace Subtitler.Player

/-! ## Commands -/

/-- The command for a call. A delay is given in seconds. -/
def command : PlayerCall → Json
  | .pause => .array [.text "set_property", .text "pause", .bool true]
  | .resume => .array [.text "set_property", .text "pause", .bool false]
  | .subtitleFile path => .array [.text "sub-add", .text path, .text "select"]
  | .clearSubtitleFile => .array [.text "sub-remove"]
  | .subtitleDelay delay =>
    let seconds := (Binary.ofInt .double delay).div .double (Binary.ofInt .double 1000)
    .array [.text "set_property", .text "sub-delay", .number (.real seconds)]

/-! ## Replies -/

/-- What a line reads as: the error of a reply, and the name of an event. -/
structure Reply where
  error : Option String
  event : Option String
deriving DecidableEq, Repr

/-- Reads a line. -/
def Reply.ofLine? (line : List Char) : Option Reply := do
  match ← Json.record? ["error", "event"] (← Json.parse? line) with
  | [error, event] => some ⟨← Json.maybe Json.text? error, ← Json.maybe Json.text? event⟩
  | _ => none

/-- What a line decides, if it is the reply. -/
def outcome? (line : List Char) : Option (Except PlayerError Unit) := do
  let reply ← Reply.ofLine? line
  if reply.event.isSome then none
  else
    match reply.error with
    | none => some (.ok ())
    | some "success" => some (.ok ())
    | some reason => some (.error (.rejected reason))

/-- The lines of a stream, each with its line feed. -/
def streamLines : List UInt8 → List (List UInt8)
  | [] => []
  | b :: rest =>
    if b = 0x0A then [b] :: streamLines rest
    else
      match streamLines rest with
      | [] => [[b]]
      | line :: more => (b :: line) :: more

/-- A line without its line end. -/
def withoutEnd (line : List Char) : List Char := ((Text.lines line).head?).getD []

/-- What a stream of lines decides. A line that is not text breaks the stream off. -/
def outcome : List (List UInt8) → Except PlayerError Unit
  | [] => .error (.channel "connection closed")
  | line :: rest =>
    match Text.Utf8.decode line with
    | .error reason => .error (.channel reason)
    | .ok text =>
      match outcome? (withoutEnd text) with
      | some result => result
      | none => outcome rest

/-! ## Calls -/

/-- The record that goes over the channel, where there is one, for a call. -/
def sent? (kind : PlayerKind) (channelOpen : Bool) (call : PlayerCall) : Option Json :=
  if kind.hasChannel && channelOpen then some (.object [("command", command call)]) else none

/-- What a player without a channel answers. -/
def answerWithout : PlayerCall → Except PlayerError Unit
  | .subtitleFile _ => .error (.unsupported "subtitle file")
  | .subtitleDelay _ => .error (.unsupported "subtitle delay")
  | _ => .ok ()

/-- What a call is answered, where `stream` is what comes back over the channel, if it is open. -/
def answer (kind : PlayerKind) (stream : Option (List UInt8)) (call : PlayerCall) :
    Except PlayerError Unit :=
  match kind, stream with
  | .vlc, _ => answerWithout call
  | .mpv, none => .error (.channel FileError.notFound.message)
  | .mpv, some bytes => outcome (streamLines bytes)

end Subtitler.Player
