import Subtitler.Number.Decimal
import Subtitler.Text.Percent
import Subtitler.Text.Split
import Subtitler.Text.Utf8

/-!
# What is played

Subtitles are listed for a movie or for one episode of a series; both are known by an identifier.

The name of a medium is the last piece of its address: without query and fragment if the address
has a scheme, with percent escapes replaced, and without the extension. Only the address is taken
apart; what an escape stands for is part of the name.

A label such as `Show.1080p.WEB` names a resolution: three or four digits with a `p` after them.
The leftmost such place counts, so a longer run of digits gives its last four.
-/

namespace Subtitler

/-- A movie or an episode. -/
inductive MediaContext
  | movie (imdbId : String)
  | episode (imdbId : String) (season number : UInt16)
deriving DecidableEq, Repr

namespace MediaContext

/-- The identifier of the movie or the series. -/
def imdbId : MediaContext → String
  | movie id => id
  | episode id _ _ => id

end MediaContext

/-! ## Names -/

namespace Media

/-- An address without query and fragment. A text without a scheme has neither. -/
def withoutQuery (url : List Char) : List Char :=
  if Text.occursIn [':', '/', '/'] url then url.takeWhile fun c => c != '?' && c != '#' else url

/-- A piece of an address with its escapes replaced, or as it is if the result is not UTF-8. -/
def unescape (piece : List Char) : List Char :=
  (Text.Utf8.decode? (Text.Percent.decode (Text.Utf8.encode piece))).getD piece

/-- A name without its extension: what stands from its last point on, if not the whole name. -/
def withoutExtension (name : List Char) : List Char :=
  match Text.splitLast? '.' name with
  | some (stem, _) => if stem.isEmpty then name else stem
  | none => name

/-- The name of the medium at an address. -/
def name (url : String) : String :=
  let piece := Text.afterLast (fun c => c == '/' || c == '\\') (withoutQuery url.toList)
  String.ofList (withoutExtension (unescape piece))

end Media

/-! ## Video quality -/

namespace Quality

/-- The resolution that a text starts with. -/
def atStart? (cs : List Char) : Option Nat :=
  let (ds, rest) := Decimal.spanDigits cs
  if (ds.length = 3 ∨ ds.length = 4) ∧ rest.head? = some 'p' then some (Decimal.value ds) else none

/-- The leftmost resolution of a text. -/
def find? : List Char → Option Nat
  | [] => none
  | c :: rest =>
    match atStart? (c :: rest) with
    | some q => some q
    | none => find? rest

/-- The resolution that a label names. -/
def parse? (label : String) : Option UInt32 := (find? label.toList).map UInt32.ofNat

end Quality

end Subtitler
