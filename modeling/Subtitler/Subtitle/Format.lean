import Subtitler.FileTree.Basic
import Subtitler.Http
import Subtitler.Text.Case

/-!
# Subtitle formats and errors

A format is recognised by a file extension, in either case. A subtitle in another format, or one
that does not keep to its format, cannot be had; nor can one whose file or server is out of reach.
-/

namespace Subtitler

/-- A subtitle format. -/
inductive SubtitleFormat
  | srt
  | webVtt
  | sub
  | ass
deriving DecidableEq, Repr

namespace SubtitleFormat

/-- The format with a given extension. -/
def ofExtension? (extension : String) : Option SubtitleFormat :=
  match Text.lowered extension with
  | "srt" => some .srt
  | "vtt" | "webvtt" => some .webVtt
  | "sub" => some .sub
  | "ass" | "ssa" => some .ass
  | _ => none

/-- The usual extension of a format. -/
def extension : SubtitleFormat → String
  | srt => "srt"
  | webVtt => "vtt"
  | sub => "sub"
  | ass => "ass"

/-- The name of a format. -/
def display : SubtitleFormat → String
  | srt => "SRT"
  | webVtt => "WebVTT"
  | sub => "SUB"
  | ass => "ASS"

end SubtitleFormat

/-! ## Why a subtitle cannot be had -/

/-- A cause of failure. -/
inductive SubtitleError
  | noFiles
  | request (detail : String)
  | status (code : Nat)
  | file (cause : FileError)
  | unsupportedFormat (name : String)
  | malformed (line : Nat) (reason : String)
deriving DecidableEq, Repr

/-- A cause in words. -/
def SubtitleError.message : SubtitleError → String
  | noFiles => "No subtitle files available"
  | request detail => s!"Subtitle request failed: {detail}"
  | status code =>
    let status := Http.statusText code
    s!"Subtitle server returned {status}"
  | file cause =>
    let cause := cause.message
    s!"Subtitle file error: {cause}"
  | unsupportedFormat name => s!"Unsupported subtitle format: {name}"
  | malformed line reason => s!"Failed to parse subtitle at line {line}: {reason}"

end Subtitler
