import Subtitler.Number.Decimal
import Subtitler.Player.Kind

/-!
# The grammar of command lines

A command has options, which are named, arguments, which stand in order, and commands below it. A
line is read from left to right, going down a command with every command name. An option that
takes a value gets the one attached to it or else the next word; its value is checked when the
next option or argument begins. What is required and what excludes each other is checked at the
end, from the innermost command out.
-/

namespace Subtitler.CommandLine

/-! ## Grammar -/

/-- What can be given to a command. -/
inductive Name
  | json
  | quiet
  | config
  | verbose
  | url
  | quality
  | imdb
  | season
  | episode
  | lang
  | noSubtitles
  | custom
  | player
  | offset
  | code
  | size
deriving DecidableEq, Repr

/-- The kinds of values. Numbers have a least and a greatest value. -/
inductive ValueKind
  | text
  | path
  | number (least greatest : Int)
  | player
deriving Repr

/-- A value. -/
inductive Value
  | given
  | text (s : String)
  | number (n : Int)
  | player (kind : PlayerKind)
deriving DecidableEq, Repr

/-- What an option does. A value with `hyphens` may look like an option itself. -/
inductive Action
  | flag (name : Name)
  | value (name : Name) (kind : ValueKind) (hyphens : Bool)
  | help
  | version
deriving Repr

/-- An option with its long name and its letter, if it has them. -/
structure Switch where
  long : Option String
  letter : Option Char
  action : Action
deriving Repr

/-- A command: its names, its options, its arguments, the commands below it, which of what is given
requires something else or excludes it, and which has to be given. -/
inductive Command
  | mk (names : List String) (options : List Switch) (arguments : List (Name × ValueKind))
      (commands : List Command) (requires excludes : List (Name × Name)) (required : List Name)

namespace Command

/-- The names of a command. -/
def names : Command → List String
  | mk names .. => names

/-- The options of a command. -/
def options : Command → List Switch
  | mk _ options .. => options

/-- The arguments of a command. -/
def arguments : Command → List (Name × ValueKind)
  | mk _ _ arguments .. => arguments

/-- The commands below a command. -/
def commands : Command → List Command
  | mk _ _ _ commands .. => commands

/-- What requires what. -/
def requires : Command → List (Name × Name)
  | mk _ _ _ _ requires .. => requires

/-- What excludes what. -/
def excludes : Command → List (Name × Name)
  | mk _ _ _ _ _ excludes _ => excludes

/-- What has to be given. -/
def required : Command → List Name
  | mk _ _ _ _ _ _ required => required

/-- The command of a name below a command. -/
def command? (c : Command) (name : String) : Option Command :=
  c.commands.find? (·.names.contains name)

end Command

/-- Why a line is not carried out. Asking for help or the version is among the reasons. -/
inductive UsageError
  | help
  | version
  | helpForMissingCommand
  | missingCommand
  | missingArgument
  | unknownArgument
  | unknownCommand
  | conflict
  | tooManyValues
  | invalidValue
  | invalidNumber
deriving DecidableEq, Repr

/-- The exit code: asking for help or the version is no failure. -/
def UsageError.exitCode : UsageError → Nat
  | help | version => 0
  | _ => 2

/-! ## Values -/

/-- The integer that a word writes, with or without a sign. -/
def integer? (s : String) : Option Int :=
  let digits (cs : List Char) : Option Int := (Decimal.number? cs).map Int.ofNat
  match s.toList with
  | '+' :: cs => digits cs
  | '-' :: cs => (digits cs).map (-·)
  | cs => digits cs

/-- Reads a value. -/
def ValueKind.read : ValueKind → String → Except UsageError Value
  | text, s => .ok (.text s)
  | path, s => if s.isEmpty then .error .invalidValue else .ok (.text s)
  | number least greatest, s =>
    match integer? s with
    | some n => if least ≤ n ∧ n ≤ greatest then .ok (.number n) else .error .invalidNumber
    | none => .error .invalidNumber
  | player, "vlc" => .ok (.player .vlc)
  | player, "mpv" => .ok (.player .mpv)
  | player, _ => .error .invalidValue

/-! ## Reading a line -/

/-- A value that is still to be checked; an option may still wait for it. -/
structure Pending where
  name : Name
  kind : ValueKind
  hyphens : Bool
  word : Option String

/-- What has been read for one command. `place` counts the arguments, and after two hyphens on
their own (`plain`) nothing is an option. -/
structure Level where
  command : Command
  given : List (Name × Value)
  pending : Option Pending
  place : Nat
  plain : Bool

namespace Level

/-- A command of which nothing has been read. -/
def start (command : Command) : Level := ⟨command, [], none, 0, false⟩

/-- Adds what was given, at most once each. -/
def give (level : Level) (name : Name) (value : Value) : Except UsageError Level :=
  if level.given.any (·.1 == name) then .error .conflict
  else .ok { level with given := level.given ++ [(name, value)] }

/-- Adds a value after checking it. -/
def giveWord (level : Level) (name : Name) (kind : ValueKind) (word : String) :
    Except UsageError Level :=
  if level.given.any (·.1 == name) then .error .conflict
  else do level.give name (← kind.read word)

/-- Checks the value that is still to be checked. -/
def settle (level : Level) : Except UsageError Level :=
  match level.pending with
  | none => .ok level
  | some p =>
    let level := { level with pending := none }
    match p.word with
    | none => .error .invalidValue
    | some word => level.giveWord p.name p.kind word

/-- Whether an option waits for its value. -/
def awaits (level : Level) : Bool :=
  match level.pending with
  | some p => p.word.isNone
  | none => false

/-- Whether an option waits for a value that may look like an option. -/
def awaitsAnything (level : Level) : Bool :=
  match level.pending with
  | some p => p.word.isNone && p.hyphens
  | none => false

/-- Gives an option, with the value attached to it. -/
def option (level : Level) (action : Action) (attached : Option String) :
    Except UsageError Level :=
  match action, attached with
  | .value name kind _, some word => do (← level.settle).giveWord name kind word
  | .value name kind hyphens, none => do
    let level ← level.settle
    .ok { level with pending := some ⟨name, kind, hyphens, none⟩ }
  | .flag name, _ => do (← level.settle).give name .given
  | .help, _ => do
    let _ ← level.settle
    .error .help
  | .version, _ => do
    let _ ← level.settle
    .error .version

/-- Whether an option takes a value. -/
def takesValue : Action → Bool
  | .value .. => true
  | _ => false

/-- Reads an option by its long name, after the hyphens. -/
def long (level : Level) (word : List Char) : Except UsageError Level :=
  let name := String.ofList (word.takeWhile (· != '='))
  let attached :=
    match word.dropWhile (· != '=') with
    | [] => none
    | _ :: rest => some (String.ofList rest)
  match level.command.options.find? (·.long == some name) with
  | none => .error .unknownArgument
  | some found =>
    if attached.isSome && !takesValue found.action then .error .tooManyValues
    else level.option found.action attached

/-- Reads options by their letters, after the hyphen. The rest of the word after the letter of an
option with a value is that value. -/
def letters (level : Level) : List Char → Except UsageError Level
  | [] => .ok level
  | c :: rest =>
    match level.command.options.find? (·.letter == some c) with
    | none => .error .unknownArgument
    | some found =>
      if takesValue found.action then
        match rest with
        | [] => level.option found.action none
        | '=' :: word => level.option found.action (some (String.ofList word))
        | word => level.option found.action (some (String.ofList word))
      else do letters (← level.option found.action none) rest

/-- Reads a word that is the value of an option or an argument. -/
def word (level : Level) (s : String) : Except UsageError Level :=
  match level.plain, level.pending with
  | false, some ⟨name, kind, hyphens, none⟩ =>
    .ok { level with pending := some ⟨name, kind, hyphens, some s⟩ }
  | _, _ =>
    match level.command.arguments[level.place]? with
    | some (name, kind) => do
      let level ← level.settle
      .ok { level with pending := some ⟨name, kind, false, some s⟩, place := level.place + 1 }
    | none =>
      if level.command.commands.isEmpty then .error .unknownArgument
      else if level.plain && (s == "help" || (level.command.command? s).isSome) then
        .error .unknownArgument
      else .error .unknownCommand

end Level

/-- Asks for help on a command below a command, named by a path of names. -/
def helpOn : Command → List String → UsageError
  | _, [] => .help
  | command, name :: rest =>
    match command.command? name with
    | some inner => helpOn inner rest
    | none => if name = "help" ∧ !command.commands.isEmpty ∧ rest.isEmpty then .help
      else .unknownCommand

/-- What a word does to the command that is being read. -/
inductive Step
  | stay (level : Level)
  | enter (command : Command)
  | help

/-- Reads a word. -/
def Level.read (level : Level) (s : String) : Except UsageError Step :=
  if level.plain then (level.word s).map .stay
  else
    let inner := if level.awaits then none else level.command.command? s
    match inner with
    | some command => .ok (.enter command)
    | none =>
      if !level.awaits && s == "help" && !level.command.commands.isEmpty then .ok .help
      else if level.awaitsAnything then (level.word s).map .stay
      else
        match s.toList with
        | ['-', '-'] => .ok (.stay { level with plain := true })
        | '-' :: '-' :: rest => (level.long rest).map .stay
        | '-' :: c :: rest => (level.letters (c :: rest)).map .stay
        | _ => (level.word s).map .stay

/-- Checks what was given to a command; `entered` says whether a command below it was. -/
def Level.check (level : Level) (entered : Bool) : Except UsageError Level := do
  let level ← level.settle
  let has (name : Name) : Bool := level.given.any (·.1 == name)
  if !entered && !level.command.commands.isEmpty then
    throw (if level.given.isEmpty then .helpForMissingCommand else .missingCommand)
  if level.command.excludes.any fun (a, b) => has a && has b then throw .conflict
  if level.command.required.any fun name => !has name then throw .missingArgument
  if level.command.requires.any fun (a, b) => has a && !has b then throw .missingArgument
  return level

/-- Checks all levels, the innermost first, and gives them in that order. -/
def checkAll : Bool → List Level → Except UsageError (List Level)
  | _, [] => .ok []
  | entered, level :: outer => do
    let level ← level.check entered
    let outer ← checkAll true outer
    .ok (level :: outer)

/-- Reads the words of a line; `outer` are the commands around the current one, the innermost
first. -/
def readWords (outer : List Level) (level : Level) : List String → Except UsageError (List Level)
  | [] => checkAll false (level :: outer)
  | s :: rest => do
    match ← level.read s with
    | .stay level => readWords outer level rest
    | .enter command => readWords (level :: outer) (.start command) rest
    | .help => .error (helpOn level.command rest)

/-- Reads a line and gives what was given to each command, the innermost first. -/
def readLine (command : Command) (words : List String) : Except UsageError (List Level) :=
  readWords [] (.start command) words

end Subtitler.CommandLine
