import Subtitler.Media.Context
import Subtitler.Number.Binary
import Subtitler.Path

/-!
# Subtitle files and tracks

A file is something that can be fetched. A track is something that can be selected: no subtitles,
files of the user's own, or the files that a server has for one language. A custom track without
a file asks the user to pick one.
-/

namespace Subtitler

/-- A subtitle file, at a remote address or on disk. The quality comes from its name. -/
structure SubtitleFile where
  id : String
  name : String
  url : String
  score : Binary
  downloads : UInt32
  quality : Option UInt32
deriving DecidableEq, Repr

namespace SubtitleFile

/-- A file with the quality that its name says. -/
def ofName (id name url : String) (score : Binary) (downloads : UInt32) : SubtitleFile :=
  ⟨id, name, url, score, downloads, Quality.parse? name⟩

/-- The file at a path on disk. -/
def atPath (path : String) : SubtitleFile :=
  let name := (Path.fileName? path).getD ""
  ofName name name path (.ofInt .single 0) 0

/-- The path of a file that is not remote. -/
def localPath? (file : SubtitleFile) : Option String :=
  let url := file.url.toList
  if "http://".toList.isPrefixOf url || "https://".toList.isPrefixOf url then none
  else some (((Text.stripStart? "file://".toList url).map String.ofList).getD file.url)

end SubtitleFile

/-- Something that can be selected as subtitles. -/
inductive Track
  | none
  | custom (files : List SubtitleFile)
  | language (imdbId : Option String) (language : String) (files : List SubtitleFile)
deriving DecidableEq, Repr

namespace Track

/-- The files of a track. -/
def files : Track → List SubtitleFile
  | none => []
  | custom files => files
  | language _ _ files => files

/-- The custom track with the file at a path. -/
def customFile (path : String) : Track := custom [.atPath path]

/-- Whether a track is the one without subtitles. -/
def isNone : Track → Bool
  | none => true
  | _ => false

/-- Whether a track holds files of the user's own. -/
def isCustom : Track → Bool
  | custom _ => true
  | _ => false

/-- Whether the user has to pick a file first. -/
def needsPick : Track → Bool
  | custom [] => true
  | _ => false

theorem isNone_iff {track : Track} : track.isNone = true ↔ track = none := by
  cases track <;> simp [isNone]

theorem needsPick_iff {track : Track} : track.needsPick = true ↔ track = custom [] := by
  cases track with
  | custom files => cases files <;> simp [needsPick]
  | _ => simp [needsPick]

/-- The language of a server's track. -/
def language? : Track → Option String
  | language _ code _ => some code
  | _ => Option.none

/-- The identifier for which a server offers a track. -/
def imdbId? : Track → Option String
  | language id _ _ => id
  | _ => Option.none

/-- A track in words. -/
def display : Track → String
  | none => "none"
  | custom files => s!"custom ({files.length} files)"
  | language id code files =>
    let id := id.getD "-"
    s!"{code} [{id}] ({files.length} files)"

/-- The first track of exactly the given language, or the one without subtitles. -/
def ofLanguage (available : List Track) (code : String) : Track :=
  (available.find? (·.language? == some code)).getD none

end Track

end Subtitler
