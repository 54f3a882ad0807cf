import Subtitler.FileTree.Basic

/-!
# Calls to a player

What a player can be asked to do, and why it may refuse.
-/

namespace Subtitler

/-- A call to a player. Delays are in milliseconds. -/
inductive PlayerCall
  | pause
  | resume
  | subtitleFile (path : String)
  | clearSubtitleFile
  | subtitleDelay (delay : Int)
deriving DecidableEq, Repr

/-- Why starting or calling a player fails. -/
inductive PlayerError
  | notFound (command : String)
  | startFailed (cause : FileError)
  | subtitleNotFound (path : String)
  | channel (reason : String)
  | rejected (reason : String)
  | unsupported (what : String)
deriving DecidableEq, Repr

/-- A failure in words. -/
def PlayerError.message : PlayerError → String
  | notFound command => s!"Player '{command}' not found. Install it first."
  | startFailed cause =>
    let cause := cause.message
    s!"Failed to start player: {cause}"
  | subtitleNotFound path => s!"Subtitle file not found: {path}"
  | channel reason => s!"Player control channel failed: {reason}"
  | rejected reason => s!"Player rejected command: {reason}"
  | unsupported what => s!"{what} is not supported by this player"

end Subtitler
