import Subtitler.Text.Case

/-!
# Players

The players that the program can start. One of them has a control channel and renders subtitle
files itself; the other is only given its arguments.
-/

namespace Subtitler

/-- A player. -/
inductive PlayerKind
  | vlc
  | mpv
deriving DecidableEq, Repr, Inhabited

namespace PlayerKind

/-- The name of a player. -/
def display : PlayerKind → String
  | vlc => "VLC"
  | mpv => "mpv"

/-- The command that starts a player. -/
def command : PlayerKind → String
  | vlc => "vlc"
  | mpv => "mpv"

/-- Whether a player is controlled over a channel. -/
def hasChannel : PlayerKind → Bool
  | vlc => false
  | mpv => true

/-- Whether a player renders subtitle files itself. -/
def rendersFiles : PlayerKind → Bool
  | vlc => false
  | mpv => true

/-- The player of a name, in either case. -/
def ofName? (name : String) : Option PlayerKind :=
  match Text.lowered name with
  | "vlc" => some vlc
  | "mpv" => some mpv
  | _ => none

end PlayerKind

end Subtitler
