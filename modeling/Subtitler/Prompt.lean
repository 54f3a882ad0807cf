import Subtitler.FileTree.Basic
import Subtitler.Subtitle.Track
import Subtitler.Text.Blank
import Subtitler.Text.Utf8

/-!
# The prompt

The user picks a subtitle file by typing its path on one line. An empty line, a line that is not
text, and a path at which there is no file pick nothing.
-/

namespace Subtitler.Prompt

/-- What the user is asked. -/
def question : String := "Subtitle file (empty to cancel): "

/-- What the user is told about a path without a file. -/
def complaint (path : String) : String := s!"Subtitle file not found: {path}\n"

/-- The first line of an input and the rest of the input. -/
def firstLine : List UInt8 → List UInt8 × List UInt8
  | [] => ([], [])
  | b :: rest =>
    if b = 0x0A then ([], rest)
    else
      let (line, rest) := firstLine rest
      (b :: line, rest)

/-- What comes of asking once: the pick, what was written, and the rest of the input. -/
structure Answer where
  pick : Option Track
  written : String
  rest : List UInt8

/-- Asks once. -/
def ask (tree : FileTree) (input : List UInt8) : Answer :=
  let (line, rest) := firstLine input
  match Text.Utf8.decode? line with
  | none => ⟨none, question, rest⟩
  | some typed =>
    let path := String.ofList (Text.trim typed)
    if path.isEmpty then ⟨none, question, rest⟩
    else if tree.isFile path then ⟨some (.customFile path), question, rest⟩
    else ⟨none, question ++ complaint path, rest⟩

end Subtitler.Prompt
