import Subtitler.Run

/-!
# Rendering

A subtitle is rendered by the player, if that renders files itself and takes the file, and
otherwise by whoever listens. Events say which of the two happens. A player that renders natively
is kept at the offset.
-/

namespace Subtitler

/-- What is shown: the active subtitle, whether the player renders it, and the offset in
milliseconds. -/
structure Rendering where
  active : Option Subtitle := none
  native : Bool := false
  offset : Int := 0
deriving DecidableEq, Repr

namespace Rendering

variable (answers : Answers)

/-- Gives a player the offset. -/
def forwardOffset (player : AttachedPlayer) (run : Run Rendering) : Run Rendering :=
  run.callOrWarn answers player (.subtitleDelay run.state.offset) .rendering fun cause =>
    s!"{player.name} failed to apply subtitle delay, {cause}"

/-- Takes the subtitle file from a player. -/
def clearFile (player : AttachedPlayer) (run : Run Rendering) : Run Rendering :=
  run.callOrWarn answers player .clearSubtitleFile .rendering fun cause =>
    s!"{player.name} failed to clear its subtitle file, {cause}"

/-- Gives a player that renders files a subtitle. If it takes it, it gets the offset too. -/
def offer (player : AttachedPlayer) (subtitle : Subtitle) (run : Run Rendering) : Run Rendering :=
  match run.call answers player (.subtitleFile subtitle.file) with
  | (run, .ok ()) =>
    let run := run.modify ({ · with native := true })
    if run.state.offset = 0 then run else forwardOffset answers player run
  | (run, .error cause) =>
    let cause := cause.message
    run.log .warn .rendering
      s!"{player.name} failed to load {subtitle.file}, falling back to overlay, {cause}"

/-- Shows a subtitle. -/
def activate (player : Option AttachedPlayer) (subtitle : Subtitle) (run : Run Rendering) :
    Run Rendering :=
  let run := run.modify ({ · with native := false })
  let run :=
    match player.filter (·.rendersFiles) with
    | some player => offer answers player subtitle run
    | none => run
  let run := run.modify ({ · with active := some subtitle })
  run.notify (if run.state.native then .nativeActivated subtitle.file else .activated subtitle)

/-- Shows the active subtitle again, on a player that may be another one. -/
def redispatch (player : Option AttachedPlayer) (run : Run Rendering) : Run Rendering :=
  match run.state.active with
  | some subtitle => activate answers player subtitle run
  | none => run

/-- Shows nothing any more. -/
def deactivate (player : Option AttachedPlayer) (run : Run Rendering) : Run Rendering :=
  let wasNative := run.state.native
  let run := run.modify ({ · with native := false, active := none })
  let run :=
    match player.filter fun _ => wasNative with
    | some player => clearFile answers player run
    | none => run
  run.notify .disabled

/-- Takes the subtitle from a player that is about to be replaced, if it renders one. The subtitle
stays active. -/
def detach (player : AttachedPlayer) (run : Run Rendering) : Run Rendering :=
  if run.state.native then clearFile answers player (run.modify ({ · with native := false }))
  else run

/-- Changes the offset. -/
def setOffset (player : Option AttachedPlayer) (offset : Int) (run : Run Rendering) :
    Run Rendering :=
  if run.state.offset = offset then run
  else
    let run := run.modify ({ · with offset })
    let run :=
      match player.filter fun _ => run.state.native with
      | some player => forwardOffset answers player run
      | none => run
    run.notify (.offsetChanged offset)

end Rendering

end Subtitler
