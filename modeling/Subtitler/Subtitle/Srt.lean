import Subtitler.Number.Decimal
import Subtitler.Subtitle.Format
import Subtitler.Subtitle.Style
import Subtitler.Text.Blank
import Subtitler.Text.Split

/-!
# Reading SubRip

A text, after an optional byte order mark, is cut into lines; the runs of lines that are not blank
are its blocks, one for each cue. A block starts with the identifier, which may be missing, and
the timing line, the one with the arrow; its other lines are the text of the cue. A cue without an
identifier is known by its position.
-/

namespace Subtitler.Srt

/-- A line with its number. -/
structure NumberedLine where
  number : Nat
  text : List Char
deriving DecidableEq, Repr

/-- Numbers lines, from the given number on. -/
def numbered (n : Nat) : List (List Char) → List NumberedLine
  | [] => []
  | line :: rest => ⟨n, line⟩ :: numbered (n + 1) rest

/-- A block has at least its first line. -/
structure Block where
  first : NumberedLine
  rest : List NumberedLine
deriving DecidableEq, Repr

/-- The runs of lines that are not blank. -/
def blocks : List NumberedLine → List Block
  | [] => []
  | line :: rest =>
    if Text.isBlankText line.text then blocks rest
    else
      match rest, blocks rest with
      | next :: _, block :: more =>
        if Text.isBlankText next.text then ⟨line, []⟩ :: block :: more
        else ⟨line, block.first :: block.rest⟩ :: more
      | _, more => ⟨line, []⟩ :: more

/-! ## Timing lines -/

/-- Takes a run of digits of a length between two bounds. -/
def digits? (least most : Nat) (cs : List Char) : Option (Nat × List Char) :=
  let ds := (cs.takeWhile Char.isDigit).take most
  if least ≤ ds.length then some (Decimal.value ds, cs.drop ds.length) else none

/-- Takes one character of a kind. -/
def take? (p : Char → Bool) : List Char → Option (List Char)
  | c :: rest => if p c then some rest else none
  | [] => none

/-- A time in milliseconds: hours, minutes, seconds and thousandths. -/
def time? (cs : List Char) : Option (Nat × List Char) := do
  let (hours, rest) ← digits? 1 2 cs
  let rest ← take? (· == ':') rest
  let (minutes, rest) ← digits? 2 2 rest
  let rest ← take? (· == ':') rest
  let (seconds, rest) ← digits? 2 2 rest
  let rest ← take? (fun c => c == ',' || c == '.') rest
  let (thousandths, rest) ← digits? 3 3 rest
  some (hours * 3600000 + minutes * 60000 + seconds * 1000 + thousandths, rest)

/-- The arrow between two times. -/
def arrow : List Char := ['-', '-', '>']

/-- The times of a timing line, which may have more text after them. -/
def timing? (line : List Char) : Option (Nat × Nat) := do
  let (start, rest) ← time? (Text.trim line)
  let rest ← Text.stripStart? arrow (Text.trimStart rest)
  let (finish, _) ← time? (Text.trimStart rest)
  some (start, finish)

/-! ## Cues -/

/-- The cue with the given identifier that starts with the given timing line. -/
def timedCue (id : String) (timing : NumberedLine) (text : List NumberedLine) :
    Except SubtitleError Cue :=
  match timing? timing.text with
  | some (start, finish) => .ok ⟨id, start, finish, text.map fun line => Style.readLine line.text⟩
  | none =>
    let shown := String.ofList (Text.trim timing.text)
    .error (.malformed timing.number ("invalid cue timing \"" ++ shown ++ "\""))

/-- The cue of a block at a position. -/
def cue (position : Nat) (block : Block) : Except SubtitleError Cue :=
  if Text.occursIn arrow block.first.text then
    timedCue (toString position) block.first block.rest
  else
    match block.rest with
    | timing :: text => timedCue (String.ofList (Text.trim block.first.text)) timing text
    | [] => .error (.malformed block.first.number "missing cue timing")

/-- The cues of blocks, the first of which has the given position. -/
def cues (position : Nat) : List Block → Except SubtitleError (List Cue)
  | [] => .ok []
  | block :: rest => do
    let first ← cue position block
    let others ← cues (position + 1) rest
    .ok (first :: others)

/-- A text without a byte order mark at its start. -/
def withoutMark : List Char → List Char
  | c :: rest => if c.toNat = 0xFEFF then rest else c :: rest
  | [] => []

/-- The cues of a text. -/
def parse (text : List Char) : Except SubtitleError (List Cue) :=
  cues 1 (blocks (numbered 1 (Text.lines (withoutMark text))))

end Subtitler.Srt
