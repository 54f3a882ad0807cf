import Subtitler.Client.Fetch
import Subtitler.Proofs.FileTree.Places

/-!
# Where fetched files are kept

A call changes the tree only if a server delivers the file (`tree_respond`): then the content
stands at the place of the cache path, one name below the folder that the language of the track
leads to (`place_cachePath`). The identifier of a file is made harmless, but the language is taken
as it is: the copy stands directly in the cache exactly if the folder is the cache itself
(`kept_in_cache_iff`), which a language without a slash ensures, and a server can name another one
(`kept_outside_cache`).
-/

namespace Subtitler.Client

variable {client : Client} {tree : FileTree} {track : Track} {file : SubtitleFile}

/-! ## The place of a copy -/

/-- The folder for the copies of a track: the cache, or where the language leads from there. -/
def folder (client : Client) (track : Track) : String :=
  Path.join client.cache (Path.folder (track.language?.getD "custom"))

/-- The name of the copy of a file in the folder of its track. -/
def copyName (track : Track) (file : SubtitleFile) : String :=
  let id := file.id.toList.map fun c => if c.isAlphanum then c else '_'
  Path.lastName (track.language?.getD "custom") ++ "_" ++ String.ofList id ++ ".srt"

theorem cacheName_eq (track : Track) (file : SubtitleFile) :
    cacheName track file = Path.folder (track.language?.getD "custom") ++ copyName track file := by
  simp only [cacheName, copyName, ← String.append_assoc, Path.folder_append_lastName]

theorem not_mem_copyName (track : Track) (file : SubtitleFile) :
    '/' ∉ (copyName track file).toList := by
  have hlast := Path.not_mem_lastName (track.language?.getD "custom")
  have hid : ∀ c ∈ file.id.toList, (if c.isAlphanum then c else '_') ≠ '/' := by
    intro c _
    split
    · rename_i hc
      rintro rfl
      cases hc
    · decide
  simp only [copyName, String.toList_append, String.toList_ofList, List.mem_append, List.mem_map]
  rintro (((h | h) | ⟨c, hc, h⟩) | h)
  · exact hlast h
  · simp at h
  · exact hid c hc h
  · simp at h

/-- The name of a copy is none of the short ones that mean something else. -/
theorem copyName_ne (track : Track) (file : SubtitleFile) {name : String}
    (h : name.toList.length ≤ 4) : copyName track file ≠ name := by
  have hend : "_".toList.length = 1 ∧ ".srt".toList.length = 4 := by decide
  rintro rfl
  simp only [copyName, String.toList_append, List.length_append] at h
  omega

theorem onward_copyName (loc : Location) (track : Track) (file : SubtitleFile) :
    FileTree.onward loc (copyName track file) = loc ++ [copyName track file] := by
  have hone : copyName track file ≠ "." := copyName_ne track file (by decide)
  have htwo : copyName track file ≠ ".." := copyName_ne track file (by decide)
  rw [FileTree.onward, if_neg hone, if_neg htwo]

theorem place_cachePath (client : Client) (tree : FileTree) (track : Track) (file : SubtitleFile) :
    tree.place (client.cachePath track file) =
      tree.place (client.folder track) ++ [copyName track file] := by
  have hslash := not_mem_copyName track file
  have hne : copyName track file ≠ "" := copyName_ne track file (by decide)
  have hhead : (copyName track file).toList.head? ≠ some '/' :=
    fun h => hslash (List.mem_of_mem_head? h)
  rw [cachePath, cacheName_eq, FileTree.place_join_append client.cache (Path.folder_cases _) hhead,
    Path.names_of_not_mem hslash hne, List.foldl_cons, List.foldl_nil, onward_copyName, folder]

/-! ## Deliveries -/

/-- A call for subtitles: the answers at that time, what is selected and what is played. -/
structure Request where
  web : Web
  track : Track
  matcher : Matcher

/-- A file of a track, and the content that a server sent for it. -/
structure Delivery where
  track : Track
  file : SubtitleFile
  body : List UInt8
deriving DecidableEq

/-- The tree, the addresses and the result of a call. -/
def respond (client : Client) (tree : FileTree) (r : Request) : Outcome Subtitle :=
  client.fetch r.web tree r.track r.matcher

/-- The content that an answer brings, if it says that all went well and does not break off. -/
def brought? : Exchange → Option (List UInt8)
  | .answered status (.ok body) => if Http.isSuccess status then some body else none
  | _ => none

/-- What a server delivers during a call, if one is asked. -/
def delivery? (client : Client) (tree : FileTree) (r : Request) : Option Delivery :=
  match r.matcher.choose r.track with
  | .error _ => none
  | .ok file =>
    if (client.respond tree r).asked = [] then none
    else (brought? (r.web file.url)).map fun body => ⟨r.track, file, body⟩

theorem tree_keep (tree : FileTree) (path : String) (answer : Exchange) :
    (keep tree path answer).1 =
      match brought? answer with
      | none => tree
      | some body => (tree.writeBelow path body).1 := by
  cases answer with
  | unreachable detail => rfl
  | broken detail => rfl
  | answered status body =>
    cases hstatus : Http.isSuccess status with
    | false => cases body <;> simp [keep, brought?, hstatus]
    | true => cases body <;> simp [keep, brought?, hstatus]

/-- A call changes the tree by what is delivered, and by nothing else. -/
theorem tree_respond (client : Client) (tree : FileTree) (r : Request) :
    (client.respond tree r).tree =
      match client.delivery? tree r with
      | none => tree
      | some d => (tree.writeBelow (client.cachePath d.track d.file) d.body).1 := by
  cases hchoose : r.matcher.choose r.track with
  | error e => simp only [respond, fetch, delivery?, hchoose]
  | ok file =>
    cases hlocal : file.localPath? with
    | some path => simp only [respond, fetch, delivery?, hchoose, hlocal, if_true]
    | none =>
      cases hexists : tree.exists? (client.cachePath r.track file) with
      | error cause =>
        simp only [respond, fetch, download, delivery?, hchoose, hlocal, hexists, if_true]
      | ok found =>
        cases found with
        | true =>
          simp only [respond, fetch, download, delivery?, hchoose, hlocal, hexists, if_true]
        | false =>
          have hkeep := tree_keep tree (client.cachePath r.track file) (r.web file.url)
          simp only [respond, fetch, download, delivery?, hchoose, hlocal, hexists,
            List.cons_ne_nil, if_false, hkeep]
          cases brought? (r.web file.url) <;> rfl

/-- What is delivered is the file that was chosen. -/
theorem chosen_of_delivery? {r : Request} {d : Delivery} (h : client.delivery? tree r = some d) :
    d.track = r.track ∧ r.matcher.choose r.track = .ok d.file := by
  unfold delivery? at h
  split at h
  · cases h
  rename_i file hfile
  split at h
  · cases h
  · obtain ⟨body, -, rfl⟩ := Option.map_eq_some_iff.1 h
    exact ⟨rfl, hfile⟩

/-- Every file after a call was there before, or is the copy of what was delivered. -/
theorem file_of_respond {r : Request} {loc : Location} {content : List UInt8}
    (h : FileTree.entry? (client.respond tree r).tree loc = some (.file content)) :
    tree.entry? loc = some (.file content) ∨ ∃ d, client.delivery? tree r = some d ∧
      loc = tree.place (client.cachePath d.track d.file) ∧ content = d.body := by
  rw [tree_respond] at h
  split at h
  · exact .inl h
  · rename_i d hd
    rcases FileTree.file_of_writeBelow h with hbefore | ⟨hloc, hcontent⟩
    · exact .inl hbefore
    · exact .inr ⟨d, hd, hloc, hcontent⟩

/-! ## Copies inside the cache -/

/-- The folder of a track is the cache itself. -/
def StaysInside (client : Client) (tree : FileTree) (track : Track) : Prop :=
  tree.place (client.folder track) = tree.place client.cache

theorem staysInside_of_not_mem (client : Client) (tree : FileTree)
    (h : '/' ∉ (track.language?.getD "custom").toList) : client.StaysInside tree track := by
  rw [StaysInside, folder, Path.folder_of_not_mem h, FileTree.place_join _ (by simp),
    Path.names_empty, List.foldl_nil]

/-- **Which copies are kept in the cache.** A file that a call makes, or gives another content, is
directly in the cache exactly if the folder of the track is the cache, as it is if the language has
no slash. -/
theorem kept_in_cache_iff {r : Request} {loc : Location} {content : List UInt8}
    (hbefore : tree.entry? loc ≠ some (.file content))
    (hafter : FileTree.entry? (client.respond tree r).tree loc = some (.file content)) :
    ((∃ name, loc = tree.place client.cache ++ [name]) ↔ client.StaysInside tree r.track) ∧
      ('/' ∉ (r.track.language?.getD "custom").toList → client.StaysInside tree r.track) := by
  obtain ⟨d, hd, hloc, -⟩ := (file_of_respond hafter).resolve_left hbefore
  rw [place_cachePath, (chosen_of_delivery? hd).1] at hloc
  refine ⟨⟨?_, ?_⟩, staysInside_of_not_mem client tree⟩
  · rintro ⟨name, hname⟩
    exact (List.append_inj' (hloc.symm.trans hname) (by simp)).1
  · intro hinside
    exact ⟨copyName r.track d.file, by rw [hloc, hinside]⟩

/-- A client that keeps its files in a directory of the working directory, the root. -/
def sample : Client := ⟨"http://server", "cache"⟩

/-- A tree without files. -/
def bare : FileTree := ⟨[], []⟩

/-- A subtitle of one cue. -/
def sampleText (words : String) : List UInt8 :=
  Text.Utf8.bytesOf ("1\n00:00:01,000 --> 00:00:02,000\n" ++ words)

/-- A server that lists one file, for a language that leads out of the cache, and sends it. -/
def strayWeb : Web := fun url =>
  if url = "http://server/subtitles/movie/tt1.json" then
    .answered 200 (.ok (Text.Utf8.bytesOf ("\x7b\"subtitles\": [\x7b\"id\": \"1\", " ++
      "\"url\": \"http://server/1\", \"lang\": \"../evil\"\x7d]\x7d")))
  else .answered 200 (.ok (sampleText "Hi"))

/-- A remote file. -/
def sampleFile (id : String) : SubtitleFile :=
  .ofName id "OpenSubtitles" "http://server/1" (.ofInt .single 0) 0

/-- A track with one remote file. -/
def sampleTrack (language id : String) : Track := .language (some "tt1") language [sampleFile id]

/-- The copy of a language that leads into a folder and out again is in the cache. -/
theorem kept_in_cache_iff_roundabout :
    let after := (sample.respond bare ⟨strayWeb, sampleTrack "sub/../eng" "1|a", default⟩).tree
    bare.entry? ["cache", "eng_1_a.srt"] ≠ some (.file (sampleText "Hi")) ∧
      after.entry? ["cache", "eng_1_a.srt"] = some (.file (sampleText "Hi")) ∧
      ((∃ name, ["cache", "eng_1_a.srt"] = bare.place sample.cache ++ [name]) ↔
        sample.StaysInside bare (sampleTrack "sub/../eng" "1|a")) := by
  have hbefore : bare.entry? ["cache", "eng_1_a.srt"] ≠ some (.file (sampleText "Hi")) := by
    decide
  have hafter : FileTree.entry?
      (sample.respond bare ⟨strayWeb, sampleTrack "sub/../eng" "1|a", default⟩).tree
      ["cache", "eng_1_a.srt"] = some (.file (sampleText "Hi")) := by decide +kernel
  exact ⟨hbefore, hafter, (kept_in_cache_iff hbefore hafter).1⟩

/-- **A copy can be kept outside the cache.** A server lists a file for a language of its choice;
when the file is fetched, it is written beside the cache. -/
theorem kept_outside_cache :
    (sample.list strayWeb (.movie "tt1")).result.toOption = some [sampleTrack "../evil" "1"] ∧
      bare.entry? ["evil_1.srt"] = none ∧
      FileTree.entry? (sample.respond bare ⟨strayWeb, sampleTrack "../evil" "1", default⟩).tree
        ["evil_1.srt"] = some (.file (sampleText "Hi")) ∧
      ¬∃ name, ["evil_1.srt"] = bare.place sample.cache ++ [name] := by
  have hcache : bare.place sample.cache = ["cache"] := by decide +kernel
  refine ⟨by decide +kernel, by decide, by decide +kernel, ?_⟩
  rintro ⟨name, hname⟩
  rw [hcache] at hname
  simp at hname

end Subtitler.Client
