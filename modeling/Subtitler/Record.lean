import Subtitler.Json.Record
import Subtitler.Preference
import Subtitler.Subtitle.Cue

/-!
# Tracks, preferences and cues as records

The JSON forms: each type with the function that writes it and the one that reads it. A track has
its kind in the field `kind`; a preference has its kind in `type` and what belongs to it in
`language`.
-/

namespace Subtitler

open Json

/-! ## Files and tracks -/

namespace SubtitleFile

/-- The record of a file. Its score is written as the 64-bit number of the same value. -/
def toJson (file : SubtitleFile) : Json :=
  .object
    [("file_id", .text file.id), ("name", .text file.name), ("url", .text file.url),
      ("score", .number (.real (file.score.convert .double))),
      ("downloads", .nat file.downloads.toNat),
      ("quality", .optional (fun q => .nat q.toNat) file.quality)]

/-- Reads the record of a file. -/
def ofJson? (value : Json) : Option SubtitleFile := do
  match ← record? ["file_id", "name", "url", "score", "downloads", "quality"] value with
  | [id, name, url, score, downloads, quality] =>
    some
      { id := ← required text? id
        name := ← required text? name
        url := ← required text? url
        score := ← required single? score
        downloads := ← required word32? downloads
        quality := ← maybe word32? quality }
  | _ => none

end SubtitleFile

namespace Track

/-- The record of a track. -/
def toJson : Track → Json
  | none => .object [("kind", .text "none")]
  | custom files =>
    .object [("kind", .text "custom"), ("files", .array (files.map SubtitleFile.toJson))]
  | language id code files =>
    .object
      [("kind", .text "language"), ("imdb_id", .optionalText id), ("language", .text code),
        ("files", .array (files.map SubtitleFile.toJson))]

/-- Reads the record of a track. The track without subtitles has no fields of its own: an object
may hold any others, an array none. -/
def ofJson? (value : Json) : Option Track := do
  let (kind, fields) ← tagged? "kind" value
  match kind with
  | "none" =>
    match fields with
    | .array (_ :: _) => Option.none
    | _ => some none
  | "custom" =>
    match ← record? ["files"] fields with
    | [files] => (required (list? SubtitleFile.ofJson?) files).map custom
    | _ => Option.none
  | "language" =>
    match ← record? ["imdb_id", "language", "files"] fields with
    | [id, code, files] =>
      some (language (← maybe text? id) (← required text? code)
        (← required (list? SubtitleFile.ofJson?) files))
    | _ => Option.none
  | _ => Option.none

end Track

/-! ## Preferences -/

namespace Preference

/-- The record of a preference. -/
def toJson : Preference → Json
  | disabled => .object [("type", .text "disabled")]
  | language code => .object [("type", .text "language"), ("language", .text code)]

/-- Reads a preference from its kind and what belongs to it. The disabled one has nothing to it,
or null in its place. -/
def ofParts? (kind : String) (content : Option Json) : Option Preference :=
  match kind, content with
  | "disabled", none | "disabled", some .null => some disabled
  | "language", some (.text code) => some (language code)
  | _, _ => none

/-- Reads the record of a preference. As an array it always has two items. -/
def ofJson? : Json → Option Preference
  | .object fields => do
    let kind ← (← slot? "type" fields).bind choice?
    ofParts? kind (← slot? "language" fields)
  | .array [kind, content] => do ofParts? (← choice? kind) (some content)
  | _ => none

end Preference

/-! ## Cues -/

namespace StyledRun

/-- The record of a run. -/
def toJson (run : StyledRun) : Json :=
  .object
    [("text", .text run.text), ("italic", .bool run.style.italic), ("bold", .bool run.style.bold),
      ("underline", .bool run.style.underline)]

/-- Reads the record of a run. -/
def ofJson? (value : Json) : Option StyledRun := do
  match ← record? ["text", "italic", "bold", "underline"] value with
  | [text, italic, bold, underline] =>
    let text ← required text? text
    let style : TextStyle :=
      ⟨← required bool? italic, ← required bool? bold, ← required bool? underline⟩
    some ⟨style, text⟩
  | _ => none

end StyledRun

namespace CueLine

/-- The record of a line. -/
def toJson (line : CueLine) : Json := .object [("texts", .array (line.map StyledRun.toJson))]

/-- Reads the record of a line. -/
def ofJson? (value : Json) : Option CueLine := do
  match ← record? ["texts"] value with
  | [texts] => required (list? StyledRun.ofJson?) texts
  | _ => none

end CueLine

namespace Cue

/-- The record of a cue. -/
def toJson (cue : Cue) : Json :=
  .object
    [("id", .text cue.id), ("start_ms", .nat cue.start), ("end_ms", .nat cue.finish),
      ("lines", .array (cue.lines.map CueLine.toJson))]

/-- Reads the record of a cue, whose times have 64 bits. -/
def ofJson? (value : Json) : Option Cue := do
  match ← record? ["id", "start_ms", "end_ms", "lines"] value with
  | [id, start, finish, lines] =>
    some
      { id := ← required text? id
        start := ← required (natBelow? UInt64.size) start
        finish := ← required (natBelow? UInt64.size) finish
        lines := ← required (list? CueLine.ofJson?) lines }
  | _ => none

end Cue

end Subtitler
