import Subtitler.FileTree.Basic
import Subtitler.Player.Call
import Subtitler.Player.Kind

/-!
# Starting a player

A player is given the address to play, a subtitle file that has to be there, and what it needs for
being controlled.
-/

namespace Subtitler.PlayerKind

/-- The arguments of a player with its control channel at `channel`. -/
def arguments (kind : PlayerKind) (url : String) (subtitle : Option String) (channel : String) :
    List String :=
  match kind with
  | vlc =>
    [url] ++ (subtitle.map fun path => ["--sub-file", path]).getD [] ++ ["--no-video-title-show"]
  | mpv =>
    [url] ++ (subtitle.map fun path => ["--sub-file=" ++ path]).getD [] ++
      ["--input-ipc-server=" ++ channel, "--force-window=immediate"]

/-- What becomes of a command when it is started. -/
abbrev Programs := String → Except FileError Unit

/-- Starts a player and gives its arguments. -/
def launch (kind : PlayerKind) (tree : FileTree) (programs : Programs) (url : String)
    (subtitle : Option String) (channel : String) : Except PlayerError (List String) := do
  if let some path := subtitle then
    if !tree.holds path then throw (.subtitleNotFound path)
  let arguments := kind.arguments url subtitle channel
  if arguments.any (·.toList.contains (Char.ofNat 0)) then
    throw (.startFailed (.other "nul byte found in provided data"))
  match programs kind.command with
  | .ok () => return arguments
  | .error .notFound => throw (.notFound kind.command)
  | .error cause => throw (.startFailed cause)

/-- Whether a player takes calls, waiting for some time until its channel is there. -/
def isReady (kind : PlayerKind) (channelOpen : Bool) (patience : Nat) : Bool :=
  match kind with
  | vlc => true
  | mpv => channelOpen && decide (0 < patience)

end Subtitler.PlayerKind
