import Subtitler.Proofs.FileTree.Keeping
import Subtitler.Proofs.Text.Utf8
import Subtitler.Proofs.Toml.Documents
import Subtitler.Settings.File

/-!
# Saved settings load back

The text of the settings is a document of two sections (`writes_toText`), and from the table of
these sections the settings are read (`read?_sections`).

**Theorem (`load_save`).** Settings can be saved wherever a file can be written, and are loaded from
there again with every text in them as it was.
-/

namespace Subtitler

theorem FontFamily.ofName?_name (family : FontFamily) : ofName? family.name = some family := by
  cases family <;> decide

theorem Decoration.ofName?_name (decoration : Decoration) :
    ofName? decoration.name = some decoration := by
  cases decoration <;> decide

namespace Settings

open Toml

/-! ## The document -/

/-- The field of a text that may be absent. -/
def optionalField (name : String) : Option String → List (String × Toml)
  | some s => [(name, .text s)]
  | none => []

/-- The fields of the settings for subtitles. -/
def subtitleFields (s : SubtitleSettings) : List (String × Toml) :=
  [("directory", .text s.directory), ("auto_cleaning_enabled", .bool s.autoCleaning)] ++
    optionalField "default_language" s.defaultLanguage ++
    [("font_family", .text s.fontFamily.name), ("font_size", .integer s.fontSize.toNat),
      ("decoration", .text s.decoration.name), ("bold", .bool s.bold)]

/-- The sections of the settings file. -/
def sections (s : Settings) : List Toml.Section :=
  [("subtitles", subtitleFields s.subtitles), ("player", optionalField "preferred" s.player)]

variable {name : String} {statements : List Statement} {text : List Char}

theorem reads_quoted (s : String) : Reads (quoted s) (.text s) := by
  have hread := reads_quote s.toList
  rwa [String.ofList_toList] at hread

theorem writes_line {value : List Char} {v : Toml} (hname : IsBareName name) (hv : Reads value v)
    (h : Writes statements text) :
    Writes (.field ⟨[], name, v⟩ :: statements) (line name value ++ text) :=
  .line (isLine_field hname hv) h

theorem writes_optionalLine (hname : IsBareName name) (value : Option String)
    (h : Writes statements text) :
    Writes
      ((optionalField name value).map (fun field => .field ⟨[], field.1, field.2⟩) ++ statements)
      (optionalLine name value ++ text) := by
  cases value with
  | none => exact h
  | some s => exact writes_line hname (reads_quoted s) h

theorem writes_toText (s : Settings) : Writes (s.sections.flatMap sectionStatements) s.toText := by
  have hfirst : "[subtitles]\n".toList = '[' :: "subtitles".toList ++ [']', '\n'] := by decide
  have hsecond : "\n[player]\n".toList = '\n' :: ('[' :: "player".toList ++ [']', '\n']) := by
    decide
  have hsize : Reads (Decimal.digits s.subtitles.fontSize.toNat)
      (.integer s.subtitles.fontSize.toNat) :=
    reads_digits (Nat.lt_trans s.subtitles.fontSize.toNat_lt (by decide))
  -- From the last line up.
  have hplayer := writes_optionalLine (show IsBareName "preferred" by decide) s.player .nil
  have hheader := Writes.blank (.line (isLine_header (show IsBareName "player" by decide)) hplayer)
  have hbold := writes_line (show IsBareName "bold" by decide) (reads_bool s.subtitles.bold) hheader
  have hdecoration := writes_line (show IsBareName "decoration" by decide)
    (reads_quoted s.subtitles.decoration.name) hbold
  have hfontSize := writes_line (show IsBareName "font_size" by decide) hsize hdecoration
  have hfamily := writes_line (show IsBareName "font_family" by decide)
    (reads_quoted s.subtitles.fontFamily.name) hfontSize
  have hlanguage := writes_optionalLine (show IsBareName "default_language" by decide)
    s.subtitles.defaultLanguage hfamily
  have hcleaning := writes_line (show IsBareName "auto_cleaning_enabled" by decide)
    (reads_bool s.subtitles.autoCleaning) hlanguage
  have hdirectory := writes_line (show IsBareName "directory" by decide)
    (reads_quoted s.subtitles.directory) hcleaning
  have hall := Writes.line (isLine_header (show IsBareName "subtitles" by decide)) hdirectory
  unfold toText
  simp only [sections, subtitleFields, sectionStatements, List.flatMap_cons, List.flatMap_nil,
    List.map_append, List.map_cons, List.map_nil, List.cons_append, List.append_assoc,
    List.nil_append, List.append_nil, hfirst, hsecond] at hall ⊢
  exact hall

/-! ## Reading it -/

theorem orElse_some {α β : Type} (default : β) (read : α → Option β) (value : α) :
    Form.orElse default read (some value) = read value := rfl

theorem word?_toNat (n : UInt32) : Form.toml.word? (.integer n.toNat) = some n := by
  have hsmall : (n.toNat : Int) < UInt32.size := Int.ofNat_lt.2 n.toNat_lt_size
  dsimp only [Form.toml]
  rw [if_pos ⟨Int.natCast_nonneg _, hsmall⟩, Int.toNat_natCast, UInt32.ofNat_toNat]

/-- A language that is not stated is the default one; everything else is stated. -/
theorem read?_subtitles (s base : SubtitleSettings) :
    SubtitleSettings.read? .toml base (.table (subtitleFields s)) = some
      { s with defaultLanguage := s.defaultLanguage.or base.defaultLanguage } := by
  have hrecord : Form.toml.record? SubtitleSettings.names (.table (subtitleFields s)) = some
      [some (.text s.directory), some (.bool s.autoCleaning), s.defaultLanguage.map .text,
        some (.text s.fontFamily.name), some (.integer s.fontSize.toNat),
        some (.text s.decoration.name), some (.bool s.bold)] := by
    rw [subtitleFields]
    cases s.defaultLanguage <;> simp [Form.toml, SubtitleSettings.names, optionalField]
  have hlanguage : Form.orElse base.defaultLanguage Form.toml.optionalText?
      (s.defaultLanguage.map .text) = some (s.defaultLanguage.or base.defaultLanguage) := by
    cases s.defaultLanguage <;> rfl
  have hsize : Form.orElse base.fontSize Form.toml.word? (some (.integer s.fontSize.toNat)) =
      some s.fontSize :=
    (orElse_some base.fontSize Form.toml.word? _).trans (word?_toNat s.fontSize)
  have hfamily := FontFamily.ofName?_name s.fontFamily
  have hdecoration := Decoration.ofName?_name s.decoration
  have htext (s : String) : Form.toml.text? (.text s) = some s := rfl
  have hbool (b : Bool) : Form.toml.bool? (.bool b) = some b := rfl
  have hchoice (s : String) : Form.toml.choice? (.text s) = some s := rfl
  rw [SubtitleSettings.read?, hrecord]
  simp only [Option.bind_eq_bind, Option.bind_some, hlanguage, hsize]
  simp only [orElse_some, htext, hbool, hchoice, hfamily, hdecoration, Option.bind_some]

theorem readPlayer?_preferred (player : Option String) :
    readPlayer? .toml (.table (optionalField "preferred" player)) = some player := by
  cases player <;> rfl

theorem read?_sections (s base : Settings) :
    read? .toml base (.table (s.sections.map fun s => (s.1, .table s.2))) = some
      { s with subtitles.defaultLanguage :=
          s.subtitles.defaultLanguage.or base.subtitles.defaultLanguage } := by
  have hrecord : Form.toml.record? ["subtitles", "player"]
      (.table (s.sections.map fun s => (s.1, .table s.2))) =
      some (s.sections.map fun s => some (.table s.2)) := rfl
  rw [read?, hrecord]
  simp only [sections, List.map_cons, List.map_nil, Option.bind_eq_bind, Option.bind_some,
    orElse_some, read?_subtitles, readPlayer?_preferred]

theorem ofText?_toText (s base : Settings) : ofText? base s.toText = some
      { s with subtitles.defaultLanguage :=
          s.subtitles.defaultLanguage.or base.subtitles.defaultLanguage } := by
  have hparse : parse? s.toText = some (.table (s.sections.map fun s => (s.1, .table s.2))) := by
    refine parse?_of_writes (writes_toText s) (by simp [sections]) ?_
    simp only [sections, List.forall_mem_cons]
    refine ⟨?_, ?_, nofun⟩
    · rw [subtitleFields]
      cases s.subtitles.defaultLanguage <;> simp [optionalField]
    · cases s.player <;> simp [optionalField]
  rw [ofText?, hparse, Option.bind_eq_bind, Option.bind_some, read?_sections]

/-! ## Files -/

variable {s : Settings} {tree : FileTree} {path : String}

theorem load_of_read (hread : tree.read path = .ok (Text.Utf8.encode s.toText))
    (directory : String) : load (.default directory) tree path = s := by
  rw [load, hread]
  simp only [Text.Utf8.decode?_encode, Option.bind_some, ofText?_toText, Option.getD_some]
  simp [Settings.default, SubtitleSettings.default]

theorem read_save (h : (s.save tree path).2 = .ok ()) :
    (s.save tree path).1.read path = .ok (Text.Utf8.encode s.toText) :=
  FileTree.read_of_writeBelow h

/-- **Saved settings load back.** All settings can be saved where any file can be written, and then
they are loaded as they were saved. -/
theorem load_save (s : Settings) (tree : FileTree) (path : String) :
    ((s.save tree path).2 = .ok () ↔ (tree.writeBelow path []).2 = .ok ()) ∧
      ((s.save tree path).2 = .ok () →
        ∀ directory, load (.default directory) (s.save tree path).1 path = s) := by
  constructor
  · rw [save, tree.result_writeBelow path _ []]
  · intro hsaved directory
    exact load_of_read (read_save hsaved) directory

/-- Settings with odd texts: quotes of both kinds, alone and in runs, line ends, backslashes and
control characters. -/
def oddSettings : Settings where
  subtitles :=
    { directory := "C:\\\"it's\"\n\t"
      autoCleaning := false
      defaultLanguage := some "\"\"\"\"\r\n''''\x07"
      fontFamily := .georgia
      fontSize := 4294967295
      decoration := .seeThroughBackground
      bold := true }
  player := some "\n'' \"\" é 字 \x7f"

theorem load_save_oddSettings :
    let path := "/settings/subtitles.toml"
    (oddSettings.save ⟨[], []⟩ path).2 = .ok () ∧
      load (.default "/tmp") (oddSettings.save ⟨[], []⟩ path).1 path = oddSettings := by
  have hsaved : (oddSettings.save ⟨[], []⟩ "/settings/subtitles.toml").2 = .ok () := by
    decide +kernel
  obtain ⟨-, hload⟩ := load_save oddSettings ⟨[], []⟩ "/settings/subtitles.toml"
  exact ⟨hsaved, hload hsaved "/tmp"⟩

end Settings

end Subtitler
