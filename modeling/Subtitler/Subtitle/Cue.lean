import Subtitler.Subtitle.Track

/-!
# Cues and subtitles

A cue shows lines of styled text from one time to another. A subtitle is a file on disk with the
cues read from it, and the track that it was fetched for.
-/

namespace Subtitler

/-- How text is set. -/
structure TextStyle where
  italic : Bool := false
  bold : Bool := false
  underline : Bool := false
deriving DecidableEq, Repr, Inhabited

/-- Text in one style. -/
structure StyledRun where
  style : TextStyle
  text : String
deriving DecidableEq, Repr, Inhabited

/-- A line of a cue. -/
abbrev CueLine := List StyledRun

/-- A line without its styles. -/
def CueLine.text (line : CueLine) : String := String.join (line.map (·.text))

/-- A cue, with its times in milliseconds. -/
structure Cue where
  id : String
  start : Nat
  finish : Nat
  lines : List CueLine
deriving DecidableEq, Repr, Inhabited

/-- A subtitle that was fetched and read. -/
structure Subtitle where
  file : String
  track : Option Track
  cues : List Cue
deriving DecidableEq, Repr

/-- A subtitle in words. -/
def Subtitle.display (s : Subtitle) : String := s!"{s.file} ({s.cues.length} cues)"

end Subtitler
