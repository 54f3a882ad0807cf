import Subtitler.Json.Printer

/-!
# Output

What the program writes for its user: results go to standard output, failures and remarks to
standard error. With JSON output results and failures are wrapped in a record and remarks are left
out; being quiet leaves out remarks and failures in plain text.
-/

namespace Subtitler

/-- How the program ends. -/
inductive ExitCode
  | success
  | failure
  | invalidArguments
  | network
  | playerNotFound
  | noSubtitles
  | playbackFailed
deriving DecidableEq, Repr

/-- The number of an exit code. -/
def ExitCode.number : ExitCode → Nat
  | success => 0
  | failure => 1
  | invalidArguments => 2
  | network => 3
  | playerNotFound => 4
  | noSubtitles => 5
  | playbackFailed => 6

/-- The kind of output. -/
structure Output where
  json : Bool
  quiet : Bool
deriving DecidableEq, Repr

/-- Text for standard output and for standard error. -/
structure Written where
  out : String
  err : String
deriving DecidableEq, Repr

/-- What was played and how its subtitles were shown. -/
structure PlaybackSummary where
  player : String
  url : String
  subtitle : Option String
  subtitleFile : Option String
  native : Bool
deriving DecidableEq, Repr

/-- A summary as a record, without the fields that have no value. -/
def PlaybackSummary.toJson (s : PlaybackSummary) : Json :=
  let field (name : String) (value : Option String) : List (String × Json) :=
    (value.map fun text => (name, Json.text text)).toList
  .object
    ([("status", .text "stopped"), ("player", .text s.player), ("url", .text s.url)] ++
      field "subtitle" s.subtitle ++ field "subtitle_file" s.subtitleFile ++
      [("native_rendering", .bool s.native)])

namespace Output

/-- Writes a result. -/
def print (o : Output) (data : Json) : Written :=
  let shown := if o.json then .object [("data", data)] else data
  ⟨shown.pretty ++ "\n", ""⟩

/-- Writes a failure. A code of zero is left out. -/
def error (o : Output) (message : String) (code : ExitCode) : Written :=
  if o.json then
    let number := if code = .success then [] else [("exit_code", Json.nat code.number)]
    ⟨"", (Json.object (("error", .text message) :: number)).pretty ++ "\n"⟩
  else if o.quiet then ⟨"", ""⟩
  else ⟨"", s!"Error: {message}\n"⟩

/-- Writes a remark. -/
def info (o : Output) (message : String) : Written :=
  if o.quiet || o.json then ⟨"", ""⟩ else ⟨"", message ++ "\n"⟩

end Output

end Subtitler
