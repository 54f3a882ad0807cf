import Subtitler.Http
import Subtitler.Json.Reader
import Subtitler.Json.Record
import Subtitler.Media.Context
import Subtitler.Subtitle.Format
import Subtitler.Subtitle.Track
import Subtitler.Text.Blank
import Subtitler.Text.Split
import Subtitler.Text.Utf8

/-!
# Listings

A server is asked for what it has for a movie or an episode and answers with a flat list of items.
The items become tracks, one for each language, in the order of the languages; the files of a
track keep the order of the items.
-/

namespace Subtitler

/-! ## Addresses -/

/-- An identifier with the letters that all of them start with. -/
def imdbIdWithStart (id : String) : String :=
  if "tt".toList.isPrefixOf id.toList then id else "tt" ++ id

/-- The address of a listing on the server at `base`. -/
def MediaContext.listingAddress (base : String) : MediaContext → String
  | .movie id =>
    let id := imdbIdWithStart id
    s!"{base}/subtitles/movie/{id}.json"
  | .episode id season number =>
    let id := imdbIdWithStart id
    let season := season.toNat
    let number := number.toNat
    s!"{base}/subtitles/series/{id}:{season}:{number}.json"

/-! ## Items -/

namespace Listing

/-- An item of a listing. -/
structure Item where
  id : String
  url : String
  language : String
deriving DecidableEq, Repr

/-- Reads the record of an item. -/
def Item.ofJson? (value : Json) : Option Item := do
  match ← Json.record? ["id", "url", "lang"] value with
  | [id, url, language] =>
    some ⟨← Json.required Json.text? id, ← Json.required Json.text? url,
      ← Json.required Json.text? language⟩
  | _ => none

/-- Reads a listing. -/
def items? (body : List UInt8) : Option (List Item) := do
  match ← Json.record? ["subtitles"] (← Json.parse? (← Text.Utf8.decode? body)) with
  | [items] => Json.required (Json.list? Item.ofJson?) items
  | _ => none

/-- The name of a release that an identifier holds: what follows its first bar, or all of it if
it looks like a name. -/
def releaseName (id : String) : String :=
  let cs := id.toList
  let afterBar := ((Text.splitFirst? '|' cs).map fun (_, rest) => Text.trim rest).getD []
  if !afterBar.isEmpty then String.ofList afterBar
  else if cs.contains '.' ||
      (cs.contains '-' && !cs.all fun c => c.isDigit || c == '-') then
    Text.trimmed id
  else "OpenSubtitles"

/-- The file of an item. -/
def Item.file (item : Item) : SubtitleFile :=
  .ofName item.id (releaseName item.id) item.url (.ofInt .single 0) 0

/-! ## Tracks -/

/-- The languages of the items, each once, in order. -/
def languages (items : List Item) : List String :=
  (items.map (·.language)).eraseDups.mergeSort fun a b => decide (a ≤ b)

/-- The tracks that the items make up. -/
def tracks (imdbId : String) (items : List Item) : List Track :=
  (languages items).map fun language =>
    .language (some imdbId) language
      ((items.filter (·.language == language)).map Item.file)

/-- The tracks that an answer lists. -/
def ofExchange (media : MediaContext) : Exchange → Except SubtitleError (List Track)
  | .unreachable detail | .broken detail => .error (.request detail)
  | .answered status body =>
    if !Http.isSuccess status then .error (.status status)
    else
      match body with
      | .error detail => .error (.request detail)
      | .ok bytes =>
        match items? bytes with
        | some items => .ok (tracks (imdbIdWithStart media.imdbId) items)
        | none => .error (.request "error decoding response body")

end Listing

end Subtitler
