import Subtitler.CommandLine.Grammar
import Subtitler.Media.Context
import Subtitler.Text.Blank
import Subtitler.Text.Split

/-!
# The program's commands

The commands of the program, its grammar, and how a line that follows the grammar becomes a
command. The general options may stand at any command; the innermost one counts.
-/

namespace Subtitler.CommandLine

/-! ## Commands -/

/-- Play something. -/
structure PlayCommand where
  url : String
  quality : Option String
  imdb : Option String
  season : Option UInt16
  episode : Option UInt16
  lang : Option String
  noSubtitles : Bool
  custom : Bool
  player : Option PlayerKind
  offset : Int
deriving DecidableEq, Repr

/-- List the subtitles for something. -/
structure SubtitlesCommand where
  imdbId : String
  season : Option UInt16
  episode : Option UInt16
  lang : Option String
deriving DecidableEq, Repr

/-- Show or change a setting. -/
inductive ConfigCommand
  | show
  | setLanguage (code : String)
  | disable
  | setSize (size : UInt32)
deriving DecidableEq, Repr

/-- A command. -/
inductive ProgramCommand
  | play (command : PlayCommand)
  | subtitles (command : SubtitlesCommand)
  | config (command : ConfigCommand)
deriving DecidableEq, Repr

/-- A command with the general options. -/
structure Invocation where
  json : Bool
  quiet : Bool
  config : Option String
  verbose : Bool
  command : ProgramCommand
deriving DecidableEq, Repr

/-- The medium of an identifier: an episode if there is a season, by default its first one. -/
def mediaOf (imdbId : String) (season episode : Option UInt16) : MediaContext :=
  match season with
  | some season => .episode imdbId season (episode.getD 1)
  | none => .movie imdbId

/-- The medium to look for subtitles of. -/
def PlayCommand.media? (c : PlayCommand) : Option MediaContext :=
  c.imdb.map fun id => mediaOf id c.season c.episode

/-- The medium to list subtitles of. -/
def SubtitlesCommand.media (c : SubtitlesCommand) : MediaContext :=
  mediaOf c.imdbId c.season c.episode

/-- The languages to list, with commas between them; all if there are none. -/
def SubtitlesCommand.languages (c : SubtitlesCommand) : List String :=
  match c.lang with
  | some lang =>
    (Text.splitBy (· == ',') lang.toList).map fun piece => String.ofList (Text.trim piece)
  | none => []

/-- What is logged unless the surroundings say otherwise. -/
def Invocation.logFilter (i : Invocation) : String :=
  if i.verbose then "subplay=debug" else "subplay=info"

/-- Whether an identifier is well formed: two letters and at least seven digits. -/
def isImdbId (id : String) : Bool :=
  match id.toList with
  | 't' :: 't' :: digits => 7 ≤ digits.length && digits.all Char.isDigit
  | _ => false

/-- What is said of an identifier that is not well formed. -/
def imdbIdMessage : String := "Invalid IMDB ID format (expected tt followed by 7+ digits)"

/-! ## The grammar -/

/-- The kind of numbers of 16 bits. -/
def word16 : ValueKind := .number 0 65535

/-- The options that every command has. -/
def generalOptions : List Switch :=
  [⟨some "json", some 'j', .flag .json⟩, ⟨some "quiet", some 'q', .flag .quiet⟩,
    ⟨some "config", some 'c', .value .config .path false⟩,
    ⟨some "verbose", some 'v', .flag .verbose⟩, ⟨some "help", some 'h', .help⟩]

/-- The options for a season and an episode. -/
def episodeOptions : List Switch :=
  [⟨some "season", some 's', .value .season word16 false⟩,
    ⟨some "episode", some 'e', .value .episode word16 false⟩]

/-- The option for a language. -/
def languageOption : Switch := ⟨some "lang", some 'l', .value .lang .text false⟩

/-- The option for an offset, a number of 64 bits that may be negative. -/
def offsetOption : Switch :=
  ⟨some "offset", some 'o',
    .value .offset (.number Int64.minValue.toInt Int64.maxValue.toInt) true⟩

/-- The grammar of `play`. -/
def playGrammar : Command :=
  .mk ["play", "p"]
    (generalOptions ++ episodeOptions ++
      [⟨some "quality", some 'Q', .value .quality .text false⟩,
        ⟨some "imdb", some 'i', .value .imdb .text false⟩, languageOption,
        ⟨some "no-subtitles", none, .flag .noSubtitles⟩, ⟨some "custom", none, .flag .custom⟩,
        ⟨some "player", some 'p', .value .player .player false⟩,
        offsetOption])
    [(.url, .text)] [] [(.season, .imdb), (.episode, .season)]
    [(.lang, .noSubtitles), (.lang, .custom), (.noSubtitles, .custom)] [.url]

/-- The grammar of `subtitles`. -/
def subtitlesGrammar : Command :=
  .mk ["subtitles", "sub"] (generalOptions ++ episodeOptions ++ [languageOption])
    [(.imdb, .text)] [] [(.episode, .season)] [] [.imdb]

/-- The grammar of `config`. -/
def configGrammar : Command :=
  .mk ["config", "cfg"] generalOptions []
    [.mk ["show"] generalOptions [] [] [] [] [],
      .mk ["set-language"] generalOptions [(.code, .text)] [] [] [] [.code],
      .mk ["disable"] generalOptions [] [] [] [] [],
      .mk ["set-size"] generalOptions [(.size, .number 0 (UInt32.size - 1))] [] [] [] [.size]]
    [] [] []

/-- The grammar of the program. -/
def grammar : Command :=
  .mk ["subplay"] (generalOptions ++ [⟨some "version", some 'V', .version⟩]) []
    [playGrammar, subtitlesGrammar, configGrammar] [] [] []

/-! ## Reading -/

/-- The value of a name at a command. -/
def Level.value? (level : Level) (name : Name) : Option Value :=
  (level.given.find? (·.1 == name)).map (·.2)

/-- Whether a flag is given. -/
def Level.has (level : Level) (name : Name) : Bool := (level.value? name).isSome

/-- A text. -/
def Level.text? (level : Level) (name : Name) : Option String :=
  match level.value? name with
  | some (.text s) => some s
  | _ => none

/-- A number. -/
def Level.number? (level : Level) (name : Name) : Option Int :=
  match level.value? name with
  | some (.number n) => some n
  | _ => none

/-- A number of 16 bits. -/
def Level.word16? (level : Level) (name : Name) : Option UInt16 :=
  (level.number? name).map fun n => .ofNat n.toNat

/-- A player. -/
def Level.player? (level : Level) (name : Name) : Option PlayerKind :=
  match level.value? name with
  | some (.player kind) => some kind
  | _ => none

/-- The command that was read, given the innermost level. -/
def Level.command? (level : Level) : Option ProgramCommand :=
  match level.command.names.head? with
  | some "play" => do
    some (.play
      { url := ← level.text? .url
        quality := level.text? .quality
        imdb := level.text? .imdb
        season := level.word16? .season
        episode := level.word16? .episode
        lang := level.text? .lang
        noSubtitles := level.has .noSubtitles
        custom := level.has .custom
        player := level.player? .player
        offset := (level.number? .offset).getD 0 })
  | some "subtitles" => do
    some (.subtitles
      { imdbId := ← level.text? .imdb
        season := level.word16? .season
        episode := level.word16? .episode
        lang := level.text? .lang })
  | some "show" => some (.config .show)
  | some "disable" => some (.config .disable)
  | some "set-language" => do some (.config (.setLanguage (← level.text? .code)))
  | some "set-size" => do
    let size ← level.number? .size
    some (.config (.setSize (.ofNat size.toNat)))
  | _ => none

/-- Reads a line; the first word is the name of the program. -/
def parse (words : List String) : Except UsageError Invocation := do
  let levels ← readLine grammar words.tail
  match levels.head?.bind Level.command? with
  | none => throw .missingCommand
  | some command =>
    return {
      json := levels.any (·.has .json)
      quiet := levels.any (·.has .quiet)
      config := levels.findSome? (·.text? .config)
      verbose := levels.any (·.has .verbose)
      command }

end Subtitler.CommandLine
