import Subtitler.Client.Listing
import Subtitler.FileTree.Basic
import Subtitler.Subtitle.Matcher
import Subtitler.Subtitle.Srt

/-!
# Fetching subtitles

A client asks one server for listings and keeps what it fetches in a directory. A file is fetched
once: as long as its cached copy is there, no server is asked. Files on disk are read where they
are. Only SubRip is understood, which a file without an extension is taken to be.
-/

namespace Subtitler

/-- A client: the address of its server, and its cache directory. -/
structure Client where
  server : String
  cache : String
deriving DecidableEq, Repr

namespace Client

/-- The server that clients ask unless told otherwise. -/
def defaultServer : String := "https://opensubtitles-v3.strem.io"

/-! ## Listing -/

/-- The addresses asked for, and what came of it. -/
structure Listed where
  asked : List String
  result : Except SubtitleError (List Track)

/-- Lists the tracks for a medium. -/
def list (client : Client) (web : Web) (media : MediaContext) : Listed :=
  let address := media.listingAddress client.server
  ⟨[address], Listing.ofExchange media (web address)⟩

/-! ## The cache -/

/-- The name under which a file of a track is kept. -/
def cacheName (track : Track) (file : SubtitleFile) : String :=
  let language := track.language?.getD "custom"
  let id := file.id.toList.map fun c => if c.isAlphanum then c else '_'
  language ++ "_" ++ String.ofList id ++ ".srt"

/-- The path under which a file of a track is kept. -/
def cachePath (client : Client) (track : Track) (file : SubtitleFile) : String :=
  Path.join client.cache (cacheName track file)

/-- What came of an operation on the files: the files afterwards, the addresses asked for, and the
result. -/
structure Outcome (α : Type) where
  tree : FileTree
  asked : List String
  result : Except SubtitleError α

/-- Writes the body of an answer into the cache. -/
def keep (tree : FileTree) (path : String) : Exchange → FileTree × Except SubtitleError Unit
  | .unreachable detail | .broken detail => (tree, .error (.request detail))
  | .answered status body =>
    if !Http.isSuccess status then (tree, .error (.status status))
    else
      match body with
      | .error detail => (tree, .error (.request detail))
      | .ok bytes =>
        let (tree, written) := tree.writeBelow path bytes
        (tree, written.mapError .file)

/-- Brings a remote file into the cache, unless it is there, and gives its path. -/
def download (client : Client) (web : Web) (tree : FileTree) (track : Track)
    (file : SubtitleFile) : Outcome String :=
  let path := client.cachePath track file
  match tree.exists? path with
  | .error cause => ⟨tree, [], .error (.file cause)⟩
  | .ok true => ⟨tree, [], .ok path⟩
  | .ok false =>
    let (tree, kept) := keep tree path (web file.url)
    ⟨tree, [file.url], kept.map fun _ => path⟩

/-! ## Fetching -/

/-- Whether the extension of a path is that of a format that can be read. -/
def checkFormat (path : String) : Except SubtitleError Unit :=
  match Path.extension? path with
  | none => .ok ()
  | some extension =>
    match SubtitleFormat.ofExtension? extension with
    | some .srt => .ok ()
    | some format => .error (.unsupportedFormat format.extension)
    | none => .error (.unsupportedFormat extension)

/-- Reads the subtitle at a path. -/
def readSubtitle (tree : FileTree) (track : Track) (path : String) :
    Except SubtitleError Subtitle := do
  checkFormat path
  let bytes ← (tree.read path).mapError .file
  let cues ← Srt.parse (Text.Utf8.decodeLossy bytes)
  return ⟨path, some track, cues⟩

/-- Fetches the file of a track that suits best what is played, and reads it. -/
def fetch (client : Client) (web : Web) (tree : FileTree) (track : Track) (m : Matcher) :
    Outcome Subtitle :=
  match m.choose track with
  | .error e => ⟨tree, [], .error e⟩
  | .ok file =>
    match file.localPath? with
    | some path => ⟨tree, [], readSubtitle tree track path⟩
    | none =>
      let done := client.download web tree track file
      ⟨done.tree, done.asked, done.result.bind (readSubtitle done.tree track)⟩

/-- Removes the cache. -/
def cleanUp (client : Client) (tree : FileTree) : FileTree × Except SubtitleError Unit :=
  match tree.exists? client.cache with
  | .error cause => (tree, .error (.file cause))
  | .ok false => (tree, .ok ())
  | .ok true =>
    let (tree, removed) := tree.removeDirectory client.cache
    (tree, removed.mapError .file)

end Client

end Subtitler
