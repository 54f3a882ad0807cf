import Subtitler.Json.Record
import Subtitler.Settings.Basic
import Subtitler.Toml.Basic

/-!
# Written settings

Settings are written as TOML and as JSON. A form says how either of them writes the few kinds of
value that settings need; reading settings is then the same for both. Records are written with
their names or as arrays in a fixed order. What is missing has its default, an unknown name is
passed over, and a value of the wrong kind makes all of it invalid.
-/

namespace Subtitler

/-- How a notation writes the values that settings need. -/
structure Form (α : Type) where
  /-- A text. -/
  text? : α → Option String
  /-- A truth value. -/
  bool? : α → Option Bool
  /-- A count of 32 bits. -/
  word? : α → Option UInt32
  /-- The name of a choice. -/
  choice? : α → Option String
  /-- A text that may be absent. -/
  optionalText? : α → Option (Option String)
  /-- The values of a record by the given names. -/
  record? : List String → α → Option (List (Option α))

namespace Form

/-- The items of an array, one for each name as far as they go. -/
def slots {α : Type} (names : List String) (items : List α) : List (Option α) :=
  (List.range names.length).map fun i => items[i]?

/-- TOML: a choice is a text, or a table whose only name stands for something empty; items beyond
the last name are passed over. -/
def toml : Form Toml where
  text?
    | .text s => some s
    | _ => none
  bool?
    | .bool b => some b
    | _ => none
  word?
    | .integer n => if 0 ≤ n ∧ n < UInt32.size then some (.ofNat n.toNat) else none
    | _ => none
  choice?
    | .text s => some s
    | .table [(name, .table [])] => some name
    | .table [(name, .array [])] => some name
    | _ => none
  optionalText?
    | .text s => some (some s)
    | _ => none
  record? names
    | .table fields =>
      some (names.map fun name => (fields.find? (·.1 == name)).map (·.2))
    | .array items => some (slots names items)
    | _ => none

/-- JSON: an absent text may be null; a record has no more items than names. -/
def json : Form Json where
  text? := Json.text?
  bool? := Json.bool?
  word? := Json.word32?
  choice? := Json.choice?
  optionalText? := Json.nullable? Json.text?
  record? names
    | .object fields => names.mapM fun name => Json.slot? name fields
    | .array items => if items.length ≤ names.length then some (slots names items) else none
    | _ => none

/-- A value that is there, or its default. -/
def orElse {α β : Type} (default : β) (read : α → Option β) : Option α → Option β
  | none => some default
  | some value => read value

end Form

namespace SubtitleSettings

/-- The names of the settings, in the order in which they are written. -/
def names : List String :=
  ["directory", "auto_cleaning_enabled", "default_language", "font_family", "font_size",
    "decoration", "bold"]

/-- Reads the settings for subtitles; `base` has the defaults. -/
def read? {α : Type} (form : Form α) (base : SubtitleSettings) (value : α) :
    Option SubtitleSettings := do
  match ← form.record? names value with
  | [directory, autoCleaning, language, family, size, decoration, bold] =>
    some
      { directory := ← Form.orElse base.directory form.text? directory
        autoCleaning := ← Form.orElse base.autoCleaning form.bool? autoCleaning
        defaultLanguage := ← Form.orElse base.defaultLanguage form.optionalText? language
        fontFamily :=
          ← Form.orElse base.fontFamily (fun v => (form.choice? v).bind FontFamily.ofName?) family
        fontSize := ← Form.orElse base.fontSize form.word? size
        decoration :=
          ← Form.orElse base.decoration (fun v => (form.choice? v).bind Decoration.ofName?)
            decoration
        bold := ← Form.orElse base.bold form.bool? bold }
  | _ => none

/-- The settings as a JSON record. -/
def toJson (s : SubtitleSettings) : Json :=
  .object
    [("directory", .text s.directory), ("auto_cleaning_enabled", .bool s.autoCleaning),
      ("default_language", .optionalText s.defaultLanguage),
      ("font_family", .text s.fontFamily.name), ("font_size", .nat s.fontSize.toNat),
      ("decoration", .text s.decoration.name), ("bold", .bool s.bold)]

end SubtitleSettings

namespace Settings

/-- Reads the name of the preferred player. -/
def readPlayer? {α : Type} (form : Form α) (value : α) : Option (Option String) := do
  match ← form.record? ["preferred"] value with
  | [preferred] => Form.orElse none form.optionalText? preferred
  | _ => none

/-- Reads all settings; `base` has the defaults. -/
def read? {α : Type} (form : Form α) (base : Settings) (value : α) : Option Settings := do
  match ← form.record? ["subtitles", "player"] value with
  | [subtitles, player] =>
    some
      { subtitles :=
          ← Form.orElse base.subtitles (SubtitleSettings.read? form base.subtitles) subtitles
        player := ← Form.orElse base.player (readPlayer? form) player }
  | _ => none

/-- All settings as a JSON record. -/
def toJson (s : Settings) : Json :=
  .object
    [("subtitles", s.subtitles.toJson),
      ("player", .object [("preferred", .optionalText s.player)])]

end Settings

end Subtitler
