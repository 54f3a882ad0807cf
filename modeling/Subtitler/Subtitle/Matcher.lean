import Subtitler.Media.Context
import Subtitler.Subtitle.Format
import Subtitler.Subtitle.Track
import Subtitler.Text.Blank
import Subtitler.Text.Case

/-!
# Choosing a file

A matcher knows the name and the quality of what is played. Of the files of a track it takes the
best one of the first tier that has any: those named like the medium, those of its quality or of
unknown quality, all. Within a tier more downloads win, then a known quality, then the higher
score; of equally good files the first wins.
-/

namespace Subtitler

/-- Name and quality of what is played. -/
structure Matcher where
  name : Option String
  quality : Option String
deriving DecidableEq, Repr, Inhabited

namespace Matcher

/-- The matcher of a playback. A medium without a name has none. -/
def ofPlayback (url quality : Option String) : Matcher :=
  ⟨(url.map Media.name).filter (!·.isEmpty), quality⟩

/-- The resolution that the quality names. -/
def resolution? (m : Matcher) : Option UInt32 := m.quality.bind Quality.parse?

end Matcher

namespace SubtitleFile

/-- Compares by score, the higher first; a score that is not a number is equal to any. -/
def compareScore (a b : SubtitleFile) : Ordering :=
  match b.score.orderKey .single, a.score.orderKey .single with
  | some x, some y => compare x y
  | _, _ => .eq

/-- Compares by rank, the better file first. -/
def compareRank (a b : SubtitleFile) : Ordering :=
  (compare b.downloads.toNat a.downloads.toNat).then <|
    match a.quality, b.quality with
    | some _, none => .lt
    | none, some _ => .gt
    | _, _ => compareScore a b

/-- The earliest of the best files, going through them from the left. -/
def best? : List SubtitleFile → Option SubtitleFile
  | [] => none
  | first :: rest => some <| rest.foldl (fun best file =>
      if best.compareRank file = .gt then file else best) first

end SubtitleFile

namespace Matcher

/-- A file name without a known subtitle extension. -/
def withoutSubtitleExtension (name : List Char) : List Char :=
  match Text.splitLast? '.' name with
  | some (stem, ext) =>
    if !stem.isEmpty && (SubtitleFormat.ofExtension? (String.ofList ext)).isSome then stem else name
  | none => name

/-- The characters that do not count when names are compared. -/
def isSeparator (c : Char) : Bool :=
  c == '[' || c == ']' || c == '(' || c == ')' || c == '_' || c == '-' || c == '.' ||
    Text.isBlank c

/-- A name in lower case and without separators. -/
def normalize (name : List Char) : List Char := (Text.lower name).filter fun c => !isSeparator c

/-- Whether a file is named like the given medium. -/
def isNamed (name : String) (file : SubtitleFile) : Bool :=
  normalize (withoutSubtitleExtension file.name.toList) == normalize name.toList

/-- Whether a file has the given quality or none that is known. -/
def hasQuality (q : UInt32) (file : SubtitleFile) : Bool :=
  match file.quality with
  | some r => r == q
  | none => true

/-- The tiers of files, the preferred ones first. -/
def tiers (m : Matcher) (files : List SubtitleFile) : List (List SubtitleFile) :=
  (m.name.map fun name => files.filter (isNamed name)).toList ++
    (m.resolution?.map fun q => files.filter (hasQuality q)).toList ++ [files]

end Matcher

/-- The file of a track that suits best what is played. -/
def Matcher.choose (m : Matcher) (track : Track) : Except SubtitleError SubtitleFile :=
  match (m.tiers track.files).findSome? SubtitleFile.best? with
  | some file => .ok file
  | none => .error .noFiles

end Subtitler
