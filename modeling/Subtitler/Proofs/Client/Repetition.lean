import Subtitler.Proofs.Client.Writing
import Subtitler.Proofs.FileTree.Standing

/-!
# What a cache keeps

A client is used again and again, for listings and for subtitles. Every use leaves all files as they
are and adds at most one, and a call that has succeeded succeeds again in the same way without a
server being asked, unless some call writes over a file that was there (`append_only_iff`). A call
looks for the copy before it asks, so it writes over a file only if the path of the copy leads to
one and yet does not find it: in a tree that stands, only by going up again from a directory that is
missing (`not_overwrites_of_stands`). Such a path may well come from the settings
(`overwritten_behind_missing`).
-/

namespace Subtitler

/-! ## Files that are kept -/

/-- Every file is still there, with its content. -/
def FileTree.KeepsFiles (t t' : FileTree) : Prop :=
  ∀ loc content, t.file? loc = some content → t'.file? loc = some content

/-- The names on a path below a directory are names on the one or the other. -/
theorem Path.mem_names_join {directory path name : String}
    (h : name ∈ names (join directory path)) : name ∈ names directory ∨ name ∈ names path := by
  rw [join] at h
  split_ifs at h with hroot hslash
  · exact .inr h
  · rcases Bool.or_eq_true_iff.1 hslash with hempty | hend
    · obtain rfl : directory = "" := by simpa using hempty
      exact .inr (by simpa using h)
    · obtain ⟨start, hstart⟩ := List.getLast?_eq_some_iff.1 (of_decide_eq_true hend)
      obtain rfl : directory = String.ofList start ++ "/" := by
        apply String.toList_inj.1
        simp [hstart]
      rw [names_append_slash, List.mem_append] at h
      rwa [names_slash]
  · rwa [names_append_slash, List.mem_append] at h

namespace Client

variable {client : Client} {tree tree' : FileTree} {r q : Request} {s : Subtitle}

theorem readSubtitle_of_keeps (hkeeps : tree.Keeps tree') (hfiles : tree.KeepsFiles tree')
    {track : Track} {path : String} (h : readSubtitle tree track path = .ok s) :
    readSubtitle tree' track path = .ok s := by
  obtain ⟨bytes, hread, -, -⟩ := readSubtitle_eq_ok h
  have hread' : tree'.read path = tree.read path := by
    rw [hread, FileTree.read_of_keeps hkeeps hfiles hread]
  simpa only [readSubtitle, hread'] using h

/-- A call that has succeeded succeeds again without asking, as long as no directory goes away and
no file changes. -/
theorem respond_again (hkeeps : (client.respond tree r).tree.Keeps tree')
    (hfiles : (client.respond tree r).tree.KeepsFiles tree')
    (hok : (client.respond tree r).result = .ok s) (htrack : q.track = r.track)
    (hmatcher : q.matcher = r.matcher) : client.respond tree' q = ⟨tree', [], .ok s⟩ := by
  cases hfile : r.matcher.choose r.track with
  | error cause =>
    simp only [respond, fetch, hfile] at hok
    cases hok
  | ok file =>
    cases hlocal : file.localPath? with
    | none =>
      have hshown := readSubtitle_of_keeps hkeeps hfiles (readSubtitle_of_respond hfile hlocal hok)
      obtain ⟨bytes, hread, -, -⟩ := readSubtitle_eq_ok hshown
      rw [respond_of_read (htrack ▸ hmatcher ▸ hfile) hlocal (htrack ▸ hread), htrack, hshown]
    | some path =>
      simp only [respond, fetch, hfile, hlocal] at hkeeps hfiles hok
      simp only [respond, fetch, htrack, hmatcher, hfile, hlocal,
        readSubtitle_of_keeps hkeeps hfiles hok]

/-! ## Files that are written over -/

/-- A call writes other content over a file. -/
def Overwrites (client : Client) (tree : FileTree) (r : Request) : Prop :=
  ∃ d content, client.Writes tree r d ∧
    tree.file? (tree.place (client.cachePath d.track d.file)) = some content ∧ content ≠ d.body

theorem keepsFiles_respond_iff :
    tree.KeepsFiles (client.respond tree r).tree ↔ ¬client.Overwrites tree r := by
  constructor
  · rintro hkept ⟨d, content, hwrites, hthere, hother⟩
    have hafter := hkept _ _ hthere
    rw [file?_of_writes hwrites, Function.update_self] at hafter
    exact hother (Option.some.inj hafter).symm
  · intro hnone loc content hthere
    by_cases hwrites : ∃ d, client.Writes tree r d
    · obtain ⟨d, hd⟩ := hwrites
      rw [file?_of_writes hd]
      by_cases hloc : loc = tree.place (client.cachePath d.track d.file)
      · subst hloc
        rw [Function.update_self]
        by_contra hother
        exact hnone ⟨d, content, hd, hthere, fun h => hother (congrArg some h.symm)⟩
      · rwa [Function.update_of_ne hloc]
    · rwa [file?_of_not_writes (not_exists.1 hwrites)]

/-- A call changes or adds a file at one place at most. -/
theorem changed_unique {loc loc' : Location}
    (hloc : (client.respond tree r).tree.file? loc ≠ tree.file? loc)
    (hloc' : (client.respond tree r).tree.file? loc' ≠ tree.file? loc') : loc = loc' := by
  by_cases hwrites : ∃ d, client.Writes tree r d
  · obtain ⟨d, hd⟩ := hwrites
    rw [file?_of_writes hd] at hloc hloc'
    have hplace {place : Location} (h : Function.update tree.file? (tree.place
        (client.cachePath d.track d.file)) (some d.body) place ≠ tree.file? place) :
        place = tree.place (client.cachePath d.track d.file) := by
      by_contra hne
      exact h (Function.update_of_ne hne _ _)
    rw [hplace hloc, hplace hloc']
  · rw [file?_of_not_writes (not_exists.1 hwrites)] at hloc
    exact absurd rfl hloc

theorem mem_names_cachePath {client : Client} {track : Track} {file : SubtitleFile} {name : String}
    (h : name ∈ Path.names (client.cachePath track file)) : name ∈ Path.names client.cache ∨
      name ∈ Path.names (track.language?.getD "custom") ∨ name = copyName track file := by
  rw [cachePath_eq] at h
  have hcopy : Path.names (copyName track file) = [copyName track file] :=
    Path.names_of_not_mem (not_mem_copyName track file) (by simp [copyName])
  have hfolder : name ∈ Path.names (client.folder track) ∨ name = copyName track file := by
    rcases Path.join_folder_cases client.cache
      (Path.folder_cases (track.language?.getD "custom")) with hempty | ⟨start, hstart⟩
    · rw [folder, hempty, String.empty_append, hcopy] at h
      exact .inr (List.mem_singleton.1 h)
    · rw [folder, hstart, Path.names_append_slash, hcopy, List.mem_append] at h
      rw [folder, hstart, Path.names_slash]
      exact h.imp id List.mem_singleton.1
  rcases hfolder with hfolder | hcopied
  · rcases Path.mem_names_join hfolder with hcache | hlanguage
    · exact .inl hcache
    · refine .inr (.inl ?_)
      rcases Path.folder_cases (track.language?.getD "custom") with hempty | ⟨start, hstart⟩
      · rw [hempty, Path.names_empty] at hlanguage
        cases hlanguage
      · rw [hstart, Path.names_slash] at hlanguage
        rw [← Path.folder_append_lastName (track.language?.getD "custom"), hstart,
          Path.names_append_slash]
        exact List.mem_append_left _ hlanguage
  · exact .inr (.inr hcopied)

/-- In a tree that stands, no file is written over by way of paths without `..`. -/
theorem not_overwrites_of_stands (hstands : tree.Stands)
    (hcache : ".." ∉ Path.names client.cache)
    (hlanguage : ".." ∉ Path.names (r.track.language?.getD "custom")) :
    ¬client.Overwrites tree r := by
  rintro ⟨d, content, hwrites, hthere, -⟩
  obtain ⟨htrack, -, -, hexists, -⟩ := delivery?_eq_some_iff.1 hwrites.1
  rw [← htrack] at hexists hlanguage
  have hpath : client.cachePath d.track d.file ≠ "" := by
    rw [cachePath_eq]
    simp [copyName]
  have hdots : ".." ∉ Path.names (client.cachePath d.track d.file) := by
    intro hmem
    rcases mem_names_cachePath hmem with h | h | h
    · exact hcache h
    · exact hlanguage h
    · exact copyName_ne d.track d.file (by decide) h.symm
  have hnone := hstands.entry?_of_exists? hpath hdots hexists
  rw [FileTree.file?_eq_some_iff, hnone] at hthere
  cases hthere

/-! ## Uses in a row -/

/-- A use of a client: for a listing, or for a subtitle. -/
inductive Use
  | list (web : Web) (media : MediaContext)
  | fetch (r : Request)

/-- The files after a use. -/
def afterUse (client : Client) (tree : FileTree) : Use → FileTree
  | .list _ _ => tree
  | .fetch r => (client.respond tree r).tree

/-- The addresses that are asked for during a use. -/
def askedFor (client : Client) (tree : FileTree) : Use → List String
  | .list web media => (client.list web media).asked
  | .fetch r => (client.respond tree r).asked

/-- The files after some uses. -/
def afterUses (client : Client) (tree : FileTree) (uses : List Use) : FileTree :=
  uses.foldl client.afterUse tree

theorem afterUses_append (client : Client) (tree : FileTree) (first rest : List Use) :
    client.afterUses tree (first ++ rest) = client.afterUses (client.afterUses tree first) rest :=
  List.foldl_append

theorem keeps_use (client : Client) (tree : FileTree) (use : Use) :
    tree.Keeps (client.afterUse tree use) := by
  cases use with
  | list web media => exact .refl tree
  | fetch r => exact client.keeps_respond tree r

theorem keeps_afterUses (client : Client) (tree : FileTree) (uses : List Use) :
    tree.Keeps (client.afterUses tree uses) := by
  induction uses generalizing tree with
  | nil => exact .refl tree
  | cons use uses ih => exact (client.keeps_use tree use).trans (ih _)

theorem stands_use (hstands : tree.Stands) (use : Use) : FileTree.Stands (client.afterUse tree use) := by
  cases use with
  | list web media => exact hstands
  | fetch r =>
    rw [afterUse, tree_respond]
    split
    · exact hstands
    · exact FileTree.stands_writeBelow hstands _ _

theorem stands_afterUses (hstands : tree.Stands) (uses : List Use) :
    FileTree.Stands (client.afterUses tree uses) := by
  induction uses generalizing tree with
  | nil => exact hstands
  | cons use uses ih => exact ih (stands_use hstands use)

/-- No call writes over a file. -/
def NeverOverwrites (client : Client) (tree : FileTree) (uses : List Use) : Prop :=
  ∀ earlier r later, uses = earlier ++ .fetch r :: later →
    ¬client.Overwrites (client.afterUses tree earlier) r

/-- Every use leaves all files as they are. -/
def AlwaysKeeps (client : Client) (tree : FileTree) (uses : List Use) : Prop :=
  ∀ earlier use later, uses = earlier ++ use :: later →
    (client.afterUses tree earlier).KeepsFiles (client.afterUse (client.afterUses tree earlier) use)

/-- A call that has succeeded succeeds again, and no server is asked. -/
def AlwaysRepeats (client : Client) (tree : FileTree) (uses : List Use) : Prop :=
  ∀ earlier r between q later s, uses = earlier ++ .fetch r :: (between ++ .fetch q :: later) →
    q.track = r.track → q.matcher = r.matcher →
      (client.respond (client.afterUses tree earlier) r).result = .ok s →
        let now := client.afterUses tree (earlier ++ .fetch r :: between)
        client.respond now q = ⟨now, [], .ok s⟩

variable {uses : List Use}

theorem alwaysKeeps_iff : client.AlwaysKeeps tree uses ↔ client.NeverOverwrites tree uses := by
  constructor
  · intro h earlier r later huses
    exact keepsFiles_respond_iff.1 (h earlier (.fetch r) later huses)
  · intro h earlier use later huses
    cases use with
    | list web media => exact fun _ _ hthere => hthere
    | fetch r => exact keepsFiles_respond_iff.2 (h earlier r later huses)

/-- What every use keeps, uses in a row keep. -/
theorem AlwaysKeeps.keepsFiles {earlier between later : List Use}
    (h : client.AlwaysKeeps tree (earlier ++ (between ++ later))) :
    (client.afterUses tree earlier).KeepsFiles (client.afterUses tree (earlier ++ between)) := by
  induction between generalizing earlier with
  | nil =>
    rw [List.append_nil]
    exact fun _ _ hthere => hthere
  | cons use between ih =>
    have hrest : earlier ++ (use :: between ++ later) = earlier ++ [use] ++ (between ++ later) := by
      simp
    have hfirst := h earlier use (between ++ later) rfl
    rw [hrest] at h
    have hmore := ih h
    rw [afterUses_append client tree earlier [use]] at hmore
    intro loc content hthere
    simpa using hmore loc content (hfirst loc content hthere)

theorem AlwaysKeeps.repeats (h : client.AlwaysKeeps tree uses) :
    client.AlwaysRepeats tree uses := by
  rintro earlier r between q later s rfl htrack hmatcher hok
  have hsplit : earlier ++ .fetch r :: between = earlier ++ [.fetch r] ++ between := by simp
  have hnext : client.afterUses tree (earlier ++ [.fetch r]) =
      (client.respond (client.afterUses tree earlier) r).tree := by
    rw [afterUses_append]
    rfl
  have hfiles : (client.afterUses tree (earlier ++ [.fetch r])).KeepsFiles
      (client.afterUses tree (earlier ++ .fetch r :: between)) := by
    have hwhole : earlier ++ .fetch r :: (between ++ .fetch q :: later) =
        earlier ++ [.fetch r] ++ (between ++ .fetch q :: later) := by simp
    rw [hwhole] at h
    rw [hsplit]
    exact h.keepsFiles
  have hkeeps := client.keeps_afterUses (client.afterUses tree (earlier ++ [.fetch r])) between
  rw [← afterUses_append, ← hsplit, hnext] at hkeeps
  rw [hnext] at hfiles
  exact respond_again hkeeps hfiles hok htrack hmatcher

/-- **The cache only grows, and what it holds is given again.** Each use of a client changes or adds
one file at most, and asks no server for a file that is local or whose copy is found. All uses leave
the files as they are, and all calls that have succeeded succeed again without asking, exactly if no
call writes over a file; and none does in a tree that stands, if neither the cache nor a language
has `..` on its path. -/
theorem append_only_iff (client : Client) (tree : FileTree) (uses : List Use) :
    (∀ earlier use later, uses = earlier ++ use :: later →
      let before := client.afterUses tree earlier
      (∀ loc loc', (client.afterUse before use).file? loc ≠ before.file? loc →
        (client.afterUse before use).file? loc' ≠ before.file? loc' → loc = loc') ∧
      ∀ r file, use = .fetch r → r.matcher.choose r.track = .ok file →
        file.localPath?.isSome ∨ before.exists? (client.cachePath r.track file) = .ok true →
          client.askedFor before use = []) ∧
    (client.AlwaysKeeps tree uses ∧ client.AlwaysRepeats tree uses ↔
      client.NeverOverwrites tree uses) ∧
    (tree.Stands → ".." ∉ Path.names client.cache →
      (∀ r, .fetch r ∈ uses → ".." ∉ Path.names (r.track.language?.getD "custom")) →
        client.NeverOverwrites tree uses) := by
  refine ⟨?_, ?_, ?_⟩
  · intro earlier use later _
    refine ⟨?_, ?_⟩
    · intro loc loc' hloc hloc'
      cases use with
      | list web media => exact absurd rfl hloc
      | fetch r => exact changed_unique hloc hloc'
    · rintro r file rfl hfile hfound
      rw [askedFor, asked_respond hfile, if_neg]
      rintro ⟨hremote, hexists⟩
      rcases hfound with hlocal | hfound
      · rw [hremote] at hlocal
        cases hlocal
      · rw [hexists] at hfound
        cases hfound
  · rw [← alwaysKeeps_iff]
    exact ⟨And.left, fun h => ⟨h, h.repeats⟩⟩
  · rintro hstands hcache hlanguages earlier r later rfl
    exact not_overwrites_of_stands (stands_afterUses hstands earlier) hcache
      (hlanguages r (by simp))

/-- Two files are fetched, and the first one once more: it is shown as before, though its server
would send another content by now. -/
theorem append_only_iff_once_more :
    let first := sampleCall "eng" "1|a" "one"
    let again := sampleCall "eng" "1|a" "three"
    let uses := [.list strayWeb (.movie "tt1"), .fetch first, .fetch (sampleCall "fre" "1|a" "two"),
      .fetch again]
    let shown : Subtitle := ⟨"cache/eng_1_a.srt", some first.track, [sampleCue "one"]⟩
    bare.Stands ∧ ".." ∉ Path.names sample.cache ∧
      (∀ r, .fetch r ∈ uses → ".." ∉ Path.names (r.track.language?.getD "custom")) ∧
      (sample.respond (sample.afterUses bare (uses.take 1)) first).result = .ok shown ∧
      sample.respond (sample.afterUses bare (uses.take 3)) again =
        ⟨sample.afterUses bare (uses.take 3), [], .ok shown⟩ := by
  intro first again uses shown
  have hstands : bare.Stands := by
    intro loc name hsome
    simp [bare, FileTree.entry?] at hsome
  have hcache : ".." ∉ Path.names sample.cache := by decide +kernel
  have hlanguages : ∀ r, .fetch r ∈ uses → ".." ∉ Path.names (r.track.language?.getD "custom") := by
    intro r hr
    simp only [uses, List.mem_cons, reduceCtorEq, Use.fetch.injEq, List.not_mem_nil, false_or,
      or_false] at hr
    rcases hr with rfl | rfl | rfl <;> decide +kernel
  have hok : (sample.respond (sample.afterUses bare (uses.take 1)) first).result = .ok shown := by
    decide +kernel
  obtain ⟨-, hiff, hnever⟩ := append_only_iff sample bare uses
  obtain ⟨-, hrepeats⟩ := hiff.2 (hnever hstands hcache hlanguages)
  exact ⟨hstands, hcache, hlanguages, hok,
    hrepeats (uses.take 1) first [.fetch (sampleCall "fre" "1|a" "two")] again [] shown rfl rfl rfl
      hok⟩

/-- **A call can write over a copy.** The directory for the cache is given by a path that goes up
again from one that is missing. The copy of the file is there, but the call does not find it, asks
the server, makes the missing directory and writes over the copy. -/
theorem overwritten_behind_missing :
    let client : Client := ⟨"http://server", "missing/../cache"⟩
    let copy := ["cache", "eng_1_a.srt"]
    let tree : FileTree := ⟨[(["cache"], .directory), (copy, .file (sampleText "one"))], []⟩
    let again := sampleCall "eng" "1|a" "two"
    tree.place (client.cachePath again.track (sampleFile "1|a")) = copy ∧
      tree.file? copy = some (sampleText "one") ∧
      (client.respond tree again).asked = ["http://server/1"] ∧
      (client.respond tree again).tree.file? copy = some (sampleText "two") := by
  decide +kernel

end Client

end Subtitler
