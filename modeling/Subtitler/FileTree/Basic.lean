import Subtitler.Path

/-!
# Trees of files

A tree gives an entry to some locations. A location is the list of names that leads to it from
the root, which is always a directory. Paths are followed name by name from the working directory
or the root: every step has to start in a directory, `..` goes to the parent, and a path that
ends in a slash means a directory.
-/

namespace Subtitler

/-! ## Why a file operation fails -/

/-- A cause of failure, as the system knows it. -/
inductive FileError
  | notFound
  | alreadyThere
  | notDirectory
  | isDirectory
  | accessDenied
  | nameTooLong
  | notEmpty
  | invalidArgument
  | nulInName
  | other (text : String)
deriving DecidableEq, Repr

/-- A cause in words, with its number. -/
def FileError.message : FileError → String
  | notFound => "No such file or directory (os error 2)"
  | accessDenied => "Permission denied (os error 13)"
  | alreadyThere => "File exists (os error 17)"
  | notDirectory => "Not a directory (os error 20)"
  | isDirectory => "Is a directory (os error 21)"
  | invalidArgument => "Invalid argument (os error 22)"
  | nameTooLong => "File name too long (os error 36)"
  | notEmpty => "Directory not empty (os error 39)"
  | nulInName => "file name contained an unexpected NUL byte"
  | other text => text

/-! ## Trees -/

/-- What stands at a location. -/
inductive Entry
  | file (content : List UInt8)
  | directory
deriving DecidableEq, Repr

/-- The names on the way from the root. -/
abbrev Location := List String

/-- A tree of files with a working directory. -/
structure FileTree where
  entries : List (Location × Entry)
  here : Location

namespace FileTree

/-! ## Entries -/

/-- The entry at a location. -/
def entry? (t : FileTree) (loc : Location) : Option Entry :=
  if loc.isEmpty then some .directory
  else (t.entries.find? (·.1 == loc)).map (·.2)

/-- Puts an entry at a location, in place of the one that is there. -/
def put (t : FileTree) (loc : Location) (e : Entry) : FileTree :=
  { t with entries := t.entries.filter (·.1 != loc) ++ [(loc, e)] }

/-- Takes a location and everything below it out of the tree. -/
def prune (t : FileTree) (loc : Location) : FileTree :=
  { t with entries := t.entries.filter fun e => !loc.isPrefixOf e.1 }

/-- Takes everything below a location out of the tree. -/
def clear (t : FileTree) (loc : Location) : FileTree :=
  { t with entries := t.entries.filter fun e => !loc.isPrefixOf e.1 || e.1 == loc }

/-! ## Following paths -/

/-- Where a path leads, whether or not an entry is there. -/
structure Spot where
  location : Location
  /-- The path ends in a slash. -/
  slash : Bool
  /-- The path ends in a dot or two, and so leads to a directory that is there. -/
  dots : Option String

/-- One step from a location. -/
def step (t : FileTree) (loc : Location) (name : String) : Except FileError Location :=
  match t.entry? loc with
  | none => .error .notFound
  | some (.file _) => .error .notDirectory
  | some .directory =>
    if name = "." then .ok loc
    else if name = ".." then .ok loc.dropLast
    else if 255 < name.utf8ByteSize then .error .nameTooLong
    else .ok (loc ++ [name])

/-- Follows a path. -/
def follow (t : FileTree) (path : String) : Except FileError Spot := do
  if path.toList.contains (Char.ofNat 0) then throw .nulInName
  if path.isEmpty then throw .notFound
  if 4095 < path.utf8ByteSize then throw .nameTooLong
  let names := (Text.splitBy (· == '/') path.toList).map String.ofList |>.filter (· != "")
  let start := if path.toList.head? = some '/' then [] else t.here
  let location ← names.foldlM t.step start
  let last := names.getLast?.getD "."
  let dots := if last = "." ∨ last = ".." then some last else none
  return ⟨location, path.toList.getLast? = some '/', dots⟩

/-- The entry that a path leads to. -/
def lookup (t : FileTree) (path : String) : Except FileError Entry := do
  let spot ← t.follow path
  match t.entry? spot.location with
  | none => .error .notFound
  | some (.file content) => if spot.slash then .error .notDirectory else .ok (.file content)
  | some .directory => .ok .directory

/-! ## Questions -/

/-- Whether a path leads to an entry; an error when that cannot be found out. -/
def exists? (t : FileTree) (path : String) : Except FileError Bool :=
  match t.lookup path with
  | .ok _ => .ok true
  | .error .notFound => .ok false
  | .error cause => .error cause

/-- Whether a path leads to a file. -/
def isFile (t : FileTree) (path : String) : Bool :=
  match t.lookup path with
  | .ok (.file _) => true
  | _ => false

/-- Whether a path leads to a directory. -/
def isDirectory (t : FileTree) (path : String) : Bool :=
  match t.lookup path with
  | .ok .directory => true
  | _ => false

/-- Whether a path leads to an entry. -/
def holds (t : FileTree) (path : String) : Bool := (t.lookup path).toOption.isSome

/-- The content of a file. -/
def read (t : FileTree) (path : String) : Except FileError (List UInt8) :=
  match t.lookup path with
  | .ok (.file content) => .ok content
  | .ok .directory => .error .isDirectory
  | .error cause => .error cause

/-! ## Changes -/

/-- Writes a file, a new one or in place of an old one. -/
def write (t : FileTree) (path : String) (content : List UInt8) : Except FileError FileTree := do
  let spot ← t.follow path
  match t.entry? spot.location with
  | some .directory => .error .isDirectory
  | some (.file _) =>
    if spot.slash then .error .notDirectory else .ok (t.put spot.location (.file content))
  | none => if spot.slash then .error .isDirectory else .ok (t.put spot.location (.file content))

/-- Makes a directory in a directory that is there. -/
def makeDirectory (t : FileTree) (path : String) : Except FileError FileTree := do
  let spot ← t.follow path
  match t.entry? spot.location with
  | some _ => .error .alreadyThere
  | none => .ok (t.put spot.location .directory)

/-- Makes a directory and those above it; `fuel` bounds how many are above it. -/
def makeDirectoriesBelow : Nat → FileTree → String → FileTree × Except FileError Unit
  | fuel, t, path =>
    if path.isEmpty then (t, .ok ())
    else
      match t.makeDirectory path with
      | .ok t => (t, .ok ())
      | .error .notFound =>
        match fuel, Path.parent? path with
        | fuel + 1, some parent =>
          match makeDirectoriesBelow fuel t parent with
          | (t, .error cause) => (t, .error cause)
          | (t, .ok ()) =>
            match t.makeDirectory path with
            | .ok t => (t, .ok ())
            | .error cause => (t, if t.isDirectory path then .ok () else .error cause)
        | _, _ => (t, .error (.other "failed to create whole tree"))
      | .error cause => (t, if t.isDirectory path then .ok () else .error cause)

/-- Makes a directory and those above it, as far as they are not there. What was made stays even
if making the rest fails. -/
def makeDirectories (t : FileTree) (path : String) : FileTree × Except FileError Unit :=
  makeDirectoriesBelow ((Path.parts path).names.length + 1) t path

/-- Writes a file and makes the directories above it. -/
def writeBelow (t : FileTree) (path : String) (content : List UInt8) :
    FileTree × Except FileError Unit :=
  let made :=
    match Path.parent? path with
    | some parent => t.makeDirectories parent
    | none => (t, .ok ())
  match made with
  | (t, .error cause) => (t, .error cause)
  | (t, .ok ()) =>
    match t.write path content with
    | .ok t => (t, .ok ())
    | .error cause => (t, .error cause)

/-- What is left after removing a directory with all it holds, and whether that succeeded. A
directory that the path names by dots is emptied but not removed. -/
def removeDirectory (t : FileTree) (path : String) : FileTree × Except FileError Unit :=
  match t.follow path with
  | .error cause => (t, .error cause)
  | .ok spot =>
    match t.entry? spot.location with
    | none => (t, .error .notFound)
    | some (.file _) => (t, .error .notDirectory)
    | some .directory =>
      match spot.dots with
      | some ".." => (t.clear spot.location, .error .notEmpty)
      | some _ => (t.clear spot.location, .error .invalidArgument)
      | none => (t.prune spot.location, .ok ())

/-! ## Listing -/

/-- What a directory holds, by path from there, in the order of the paths; directories end in a
slash. -/
def listing (t : FileTree) (loc : Location) : List (String × Entry) :=
  let below := t.entries.filterMap fun (place, entry) =>
    if loc.isPrefixOf place && place != loc then
      let path := String.intercalate "/" (place.drop loc.length)
      match entry with
      | .file content => some (path, Entry.file content)
      | .directory => some (path ++ "/", Entry.directory)
    else none
  below.mergeSort fun a b => decide (a.1 ≤ b.1)

end FileTree

end Subtitler
