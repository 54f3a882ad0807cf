import Subtitler.Text.Split

/-!
# Paths

A path is a text; slashes separate its names. Empty names and single dots say nothing, apart from
a dot at the very start of a relative path. Two paths are the same path when their names and
their starts agree, however they are spelled.
-/

namespace Subtitler.Path

/-- A path taken apart: whether it starts at the root, whether it starts with a dot, and its
names, of which some may be `..`. -/
structure Parts where
  rooted : Bool
  dotted : Bool
  names : List String
deriving DecidableEq, Repr

/-- Takes a path apart. -/
def parts (path : String) : Parts :=
  let pieces := (Text.splitBy (· == '/') path.toList).map String.ofList
  let rooted := path.toList.head? = some '/'
  { rooted
    dotted := !rooted && pieces.head? = some "."
    names := pieces.filter fun piece => piece != "" && piece != "." }

/-- Whether two spellings name the same path. -/
def same (p q : String) : Bool := decide (parts p = parts q)

/-- Whether a path starts at the root. -/
def isAbsolute (path : String) : Bool := (parts path).rooted

/-- The last name of a path, unless the path ends in `..` or has no name. -/
def fileName? (path : String) : Option String :=
  match (parts path).names.getLast? with
  | some ".." => none
  | name => name

/-- What a file name has after its last point, if something stands before that point. -/
def extension? (path : String) : Option String := do
  let (stem, ext) ← Text.splitLast? '.' (← fileName? path).toList
  if stem.isEmpty then none else some (String.ofList ext)

/-- A path put together from its parts. -/
def ofParts (p : Parts) : String :=
  let names := String.intercalate "/" p.names
  if p.rooted then "/" ++ names
  else if p.dotted then if p.names.isEmpty then "." else "./" ++ names
  else names

/-- The path without its last name; the root and the empty path have no parent. -/
def parent? (path : String) : Option String :=
  let p := parts path
  if !p.names.isEmpty then some (ofParts { p with names := p.names.dropLast })
  else if p.dotted then some ""
  else none

/-- A path below a directory; a path from the root stays as it is. -/
def join (directory path : String) : String :=
  if path.toList.head? = some '/' then path
  else if directory.isEmpty || directory.toList.getLast? = some '/' then directory ++ path
  else directory ++ "/" ++ path

end Subtitler.Path
