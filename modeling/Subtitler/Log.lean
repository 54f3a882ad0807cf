/-!
# The log

A line of the log names its level and the part of the program that it comes from.
-/

namespace Subtitler

/-- How serious a line of the log is. -/
inductive LogLevel
  | error
  | warn
  | info
deriving DecidableEq, Repr

/-- The name of a level. -/
def LogLevel.text : LogLevel → String
  | error => "ERROR"
  | warn => "WARN"
  | info => "INFO"

/-- The parts of the program that write to the log. -/
inductive LogSource
  | commands
  | manager
  | rendering
  | picking
deriving DecidableEq, Repr

/-- The name of a part. -/
def LogSource.text : LogSource → String
  | commands => "subplay::commands"
  | manager => "subplay::sync::manager"
  | rendering => "subplay::sync::render"
  | picking => "subplay::sync::picker"

/-- An entry of the log. -/
structure LogEntry where
  level : LogLevel
  source : LogSource
  message : String
deriving DecidableEq, Repr

/-- The line of an entry, without the time and without its line end. -/
def LogEntry.line (entry : LogEntry) : String :=
  let level := entry.level.text
  let source := entry.source.text
  s!"[{level} {source}] {entry.message}"

end Subtitler
