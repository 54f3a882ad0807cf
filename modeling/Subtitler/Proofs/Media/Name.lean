import Subtitler.Media.Context
import Subtitler.Proofs.Text.Percent
import Subtitler.Proofs.Text.Split

/-!
# The name of a medium at an address

Of an address, only the last piece has a part in the name (`name_of_piece`).

**Theorem (`name_url`).** At the address of a file, the medium is named like the file without its
extension, whatever the directory is and whatever follows the file in the address.

**Theorem (`name_escaped`).** So it is for any name at all, if the file is escaped in the address:
what an escape stands for is part of the name and takes nothing apart.
-/

namespace Subtitler

/-! ## Texts without escapes -/

namespace Text

theorem Percent.decode_of_not_mem {bytes : List UInt8} (h : 0x25 ∉ bytes) :
    Percent.decode bytes = bytes := by
  fun_induction Percent.decode bytes <;> simp_all

end Text

namespace Media

theorem unescape_of_not_mem {piece : List Char} (h : '%' ∉ piece) : unescape piece = piece := by
  have hbytes : 0x25 ∉ Text.Utf8.encode piece := Text.Utf8.not_mem_encode rfl (by decide) h
  rw [unescape, Text.Percent.decode_of_not_mem hbytes, Text.Utf8.decode?_encode, Option.getD_some]

theorem unescape_escape (cs : List Char) : unescape (Text.Percent.escape cs) = cs := by
  rw [unescape, Text.Percent.encode_escape, Text.Percent.decode_encode, Text.Utf8.decode?_encode,
    Option.getD_some]

/-! ## The last piece of an address -/

theorem withoutExtension_append {stem ext : List Char} (hstem : stem ≠ []) (hext : '.' ∉ ext) :
    withoutExtension (stem ++ '.' :: ext) = stem := by
  rw [withoutExtension, Text.splitLast?_append '.' stem hext]
  simp [hstem]

/-- Neither what stands before the last piece of an address nor the query or fragment after it has a
part in the name. -/
theorem name_of_piece {start piece rest : List Char} (hscheme : [':', '/', '/'] <:+: start)
    (hstart : ∀ c ∈ start, c ∉ ['?', '#']) (hpiece : ∀ c ∈ piece, c ∉ ['/', '\\', '?', '#'])
    (hrest : ∀ c ∈ rest.head?, c ∈ ['?', '#']) :
    name (String.ofList (start ++ '/' :: piece ++ rest)) =
      String.ofList (withoutExtension (unescape piece)) := by
  have hurl : [':', '/', '/'] <:+: start ++ '/' :: piece ++ rest := by
    rw [List.append_assoc]
    exact List.infix_append_of_infix_left hscheme
  have hpath : ∀ c ∈ start ++ '/' :: piece, (c != '?' && c != '#') = true := by
    intro c hc
    rcases List.mem_append.1 hc with hc | hc
    · simpa using hstart c hc
    · rcases List.mem_cons.1 hc with rfl | hc
      · decide
      · have hplain := hpiece c hc
        simp_all
  have hend : ∀ c ∈ rest.head?, (c != '?' && c != '#') = false := by
    intro c hc
    rcases List.mem_pair.1 (hrest c hc) with rfl | rfl <;> rfl
  have hpath : withoutQuery (start ++ '/' :: piece ++ rest) = start ++ '/' :: piece := by
    rw [withoutQuery, if_pos (Text.occursIn_iff.2 hurl), Text.takeWhile_run hpath hend]
  have hlast : Text.afterLast (fun c => c == '/' || c == '\\') (start ++ '/' :: piece) = piece := by
    refine Text.afterLast_append rfl start fun c hc => ?_
    have hplain := hpiece c hc
    simp_all
  simp only [name, String.toList_ofList, hpath, hlast]

/-! ## Addresses of files -/

/-- The address of a file: its scheme and directory, its name and extension, and the query or the
fragment that follows. -/
structure Address where
  scheme : String
  directory : String
  name : String
  extension : String
  rest : String
  scheme_plain : ∀ c ∈ scheme.toList, c ∉ ['?', '#']
  directory_plain : ∀ c ∈ directory.toList, c ∉ ['?', '#']
  name_ne : name ≠ ""
  name_plain : ∀ c ∈ name.toList, c ∉ ['/', '\\', '%', '?', '#']
  extension_plain : ∀ c ∈ extension.toList, c ∉ ['/', '\\', '%', '?', '#', '.']
  rest_start : ∀ c ∈ rest.toList.head?, c ∈ ['?', '#']

namespace Address

/-- An address as a text. -/
def url (a : Address) : String :=
  a.scheme ++ "://" ++ a.directory ++ "/" ++ a.name ++ "." ++ a.extension ++ a.rest

/-- What stands before the file in an address. -/
def start (a : Address) : List Char := (a.scheme ++ "://" ++ a.directory).toList

/-- The file at an address. -/
def file (a : Address) : List Char := a.name.toList ++ '.' :: a.extension.toList

theorem toList_url (a : Address) : a.url.toList = a.start ++ '/' :: a.file ++ a.rest.toList := by
  simp [url, start, file]

theorem start_plain (a : Address) : ∀ c ∈ a.start, c ∉ ['?', '#'] := by
  intro c hc
  have hslashes : ∀ c ∈ "://".toList, c ∉ ['?', '#'] := by simp
  simp only [start, String.toList_append, List.mem_append] at hc
  rcases hc with (hc | hc) | hc
  · exact a.scheme_plain c hc
  · exact hslashes c hc
  · exact a.directory_plain c hc

theorem file_plain (a : Address) : ∀ c ∈ a.file, c ∉ ['/', '\\', '%', '?', '#'] := by
  intro c hc
  rcases List.mem_append.1 hc with hname | hextension
  · exact a.name_plain c hname
  · rcases List.mem_cons.1 hextension with rfl | hextension
    · decide
    · have hplain := a.extension_plain c hextension
      simp_all

end Address

/-- **The name of a medium.** Neither the directory nor what follows the file has a part in it. -/
theorem name_url (a : Address) : name a.url = a.name := by
  have hscheme : [':', '/', '/'] <:+: a.start := ⟨a.scheme.toList, a.directory.toList, by
    simp [Address.start]⟩
  have hpiece : ∀ c ∈ a.file, c ∉ ['/', '\\', '?', '#'] := by
    intro c hc
    have hplain := a.file_plain c hc
    simp_all
  have hescapes : '%' ∉ a.file := fun h => a.file_plain '%' h (by decide)
  have hext : '.' ∉ a.extension.toList := fun h => a.extension_plain '.' h (by decide)
  have hname : a.name.toList ≠ [] := by simpa using a.name_ne
  have hurl : a.url = String.ofList (a.start ++ '/' :: a.file ++ a.rest.toList) := by
    rw [← a.toList_url, String.ofList_toList]
  rw [hurl, name_of_piece hscheme a.start_plain hpiece a.rest_start, unescape_of_not_mem hescapes,
    Address.file, withoutExtension_append hname hext, String.ofList_toList]

/-! ## Escaped files -/

/-- **Every name is read back from the address of its file**, if the file is escaped there: whatever
is in the name, it is no part of the address. -/
theorem name_escaped (start stem extension rest : String)
    (hscheme : "://".toList <:+: start.toList) (hstart : ∀ c ∈ start.toList, c ∉ ['?', '#'])
    (hstem : stem ≠ "") (hext : '.' ∉ extension.toList)
    (hrest : rest = "" ∨ ∃ c more, rest.toList = c :: more ∧ c ∈ ['?', '#']) :
    name (start ++ "/" ++ Text.Percent.escaped (stem ++ "." ++ extension) ++ rest) = stem := by
  set file := stem.toList ++ '.' :: extension.toList with hfile
  have hurl : start ++ "/" ++ Text.Percent.escaped (stem ++ "." ++ extension) ++ rest =
      String.ofList (start.toList ++ '/' :: Text.Percent.escape file ++ rest.toList) := by
    apply String.toList_inj.1
    simp [Text.Percent.escaped, hfile]
  have hend : ∀ c ∈ rest.toList.head?, c ∈ ['?', '#'] := by
    intro c hc
    rcases hrest with rfl | ⟨d, more, hd, hmem⟩
    · cases hc
    · rw [hd] at hc
      exact Option.some.inj hc ▸ hmem
  have hname : stem.toList ≠ [] := by simpa using hstem
  rw [hurl, name_of_piece hscheme hstart Text.Percent.escape_plain hend, unescape_escape, hfile,
    withoutExtension_append hname hext, String.ofList_toList]

/-- A name with all that takes an address apart, an escape, points and a character of more than one
byte. -/
theorem name_escaped_separators :
    let start := "https://host/a.b"
    let stem := "C:\\a/b%2F?#.é."
    let rest := "?t=1#/x.y"
    "://".toList <:+: start.toList ∧ (∀ c ∈ start.toList, c ∉ ['?', '#']) ∧ stem ≠ "" ∧
      '.' ∉ "mkv".toList ∧ (rest = "" ∨ ∃ c more, rest.toList = c :: more ∧ c ∈ ['?', '#']) ∧
      name (start ++ "/" ++ Text.Percent.escaped (stem ++ "." ++ "mkv") ++ rest) = stem := by
  intro start stem rest
  have hscheme : "://".toList <:+: start.toList := ⟨"https".toList, "host/a.b".toList, by decide⟩
  have hplain : start.toList.all (fun c => c ∉ ['?', '#']) = true := by decide
  have hstart : ∀ c ∈ start.toList, c ∉ ['?', '#'] := fun c hc =>
    of_decide_eq_true (List.all_eq_true.1 hplain c hc)
  have hrest : rest = "" ∨ ∃ c more, rest.toList = c :: more ∧ c ∈ ['?', '#'] :=
    Or.inr ⟨'?', "t=1#/x.y".toList, by decide, by decide⟩
  have hext : '.' ∉ "mkv".toList := by decide
  exact ⟨hscheme, hstart, by decide, hext, hrest,
    name_escaped start stem "mkv" rest hscheme hstart (by decide) hext hrest⟩

end Media

end Subtitler
