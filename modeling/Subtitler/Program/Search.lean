import Subtitler.Client.Fetch
import Subtitler.CommandLine.Command
import Subtitler.Program.Basic
import Subtitler.Record

/-!
# Listing subtitles

The tracks that a server has for a medium, in all languages or in some.
-/

namespace Subtitler.Program

/-- The tracks in the given languages; in all languages if none is given. -/
def inLanguages (languages : List String) (tracks : List Track) : List Track :=
  if languages.isEmpty then tracks
  else tracks.filter fun track => track.language?.any languages.contains

/-- Lists subtitles. -/
def search (s : Surroundings) (given : Option String) (output : Output)
    (command : CommandLine.SubtitlesCommand) : Outcome :=
  if !CommandLine.isImdbId command.imdbId then
    failure s output CommandLine.imdbIdMessage .invalidArguments
  else
    let directory := (openSettings s given).settings.subtitles.directory
    let client : Client := ⟨Client.defaultServer, directory⟩
    let listed := client.list s.web command.media
    let ended : Outcome :=
      match listed.result with
      | .error cause =>
        let cause := cause.message
        failure s output s!"Subtitle search failed: {cause}" .network
      | .ok tracks =>
        let tracks := inLanguages command.languages tracks
        if tracks.isEmpty then failure s output "No subtitles found" .noSubtitles
        else
          { exit := .success
            written := output.print (.array (tracks.map Track.toJson))
            files := s.files }
    let remark := (output.info s!"Searching subtitles for: {command.imdbId}").err
    { ended with asked := listed.asked }.after remark

end Subtitler.Program
