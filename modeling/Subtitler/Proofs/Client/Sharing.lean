import Mathlib.Data.List.Basic
import Mathlib.Data.List.Induction
import Subtitler.Proofs.Client.Cache

/-!
# Whose content a copy has

Calls follow one another, each in the tree that the one before has left (`Client.after`). Every
file at the end was there at the start or was delivered to the place where it stands
(`file_of_after`), so a call shows what was delivered to the place of its copy (`exists_delivery`).
It shows the content of its own file as long as no other file was delivered there; and a file with
the same cache name gets the same copy (`own_content_unless_shared`). Files with identifiers of
letters and digits have places of their own (`IsPlain.eq_of_place`), but all other characters are
replaced by the same one, and then a call can show another file (`content_of_another`).
-/

namespace Subtitler.Client

variable {client : Client} {tree : FileTree} {rs : List Request} {r : Request}
  {file : SubtitleFile} {s : Subtitle}

/-! ## Calls in a row -/

/-- The tree after some calls. -/
def after (client : Client) (tree : FileTree) (rs : List Request) : FileTree :=
  rs.foldl (fun tree r => (client.respond tree r).tree) tree

/-- What is delivered during some calls, in order. -/
def deliveries (client : Client) : FileTree → List Request → List Delivery
  | _, [] => []
  | tree, r :: rs =>
    (client.delivery? tree r).toList ++ deliveries client (client.respond tree r).tree rs

theorem after_concat (client : Client) (tree : FileTree) (rs : List Request) (r : Request) :
    client.after tree (rs ++ [r]) = (client.respond (client.after tree rs) r).tree := by
  simp [after]

theorem deliveries_concat (client : Client) (tree : FileTree) (rs : List Request) (r : Request) :
    client.deliveries tree (rs ++ [r]) =
      client.deliveries tree rs ++ (client.delivery? (client.after tree rs) r).toList := by
  induction rs generalizing tree with
  | nil => simp [deliveries, after]
  | cons q rs ih =>
    rw [List.cons_append, deliveries, deliveries, ih, List.append_assoc]
    rfl

theorem here_respond (client : Client) (tree : FileTree) (r : Request) :
    (client.respond tree r).tree.here = tree.here := by
  rw [tree_respond]
  split
  · rfl
  · exact tree.here_writeBelow _ _

theorem here_after (client : Client) (tree : FileTree) (rs : List Request) :
    (client.after tree rs).here = tree.here := by
  induction rs using List.reverseRecOn with
  | nil => rfl
  | append_singleton rs r ih => rw [after_concat, here_respond, ih]

/-- Every file after some calls was there before them, or was delivered to the place where it
stands. -/
theorem file_of_after {loc : Location} {content : List UInt8}
    (h : FileTree.entry? (client.after tree rs) loc = some (.file content)) :
    tree.entry? loc = some (.file content) ∨ ∃ d ∈ client.deliveries tree rs,
      loc = tree.place (client.cachePath d.track d.file) ∧ content = d.body := by
  induction rs using List.reverseRecOn with
  | nil => exact .inl h
  | append_singleton rs r ih =>
    rw [after_concat] at h
    rw [deliveries_concat]
    rcases file_of_respond h with hbefore | ⟨d, hd, hloc, hcontent⟩
    · rcases ih hbefore with hstart | ⟨d, hd, hplace⟩
      · exact .inl hstart
      · exact .inr ⟨d, List.mem_append_left _ hd, hplace⟩
    · rw [FileTree.place_congr (client.here_after tree rs)] at hloc
      exact .inr ⟨d, List.mem_append_right _ (Option.mem_toList.2 hd), hloc, hcontent⟩

/-! ## What a call shows -/

/-- What is read depends on the content of the file; the track is only passed on. -/
theorem readSubtitle_eq_ok {track : Track} {path : String}
    (h : readSubtitle tree track path = .ok s) :
    ∃ bytes, tree.read path = .ok bytes ∧ Srt.parse (Text.Utf8.decodeLossy bytes) = .ok s.cues ∧
      ∀ other, readSubtitle tree other path = .ok { s with track := some other } := by
  simp only [readSubtitle, bind, Except.bind, pure, Except.pure] at h ⊢
  split at h
  · cases h
  split at h
  · cases h
  rename_i bytes hbytes
  split at h
  · cases h
  rename_i cues hcues
  cases h
  refine ⟨bytes, ?_, hcues, ?_⟩
  · cases hread : tree.read path with
    | error cause => rw [hread] at hbytes; cases hbytes
    | ok found => rw [hread] at hbytes; cases hbytes; rfl
  · intro other
    rfl

theorem path_of_download {web : Web} {track : Track} {path : String}
    (h : (client.download web tree track file).result = .ok path) :
    path = client.cachePath track file := by
  cases hexists : tree.exists? (client.cachePath track file) with
  | error cause =>
    simp only [download, hexists] at h
    cases h
  | ok found =>
    cases found with
    | true =>
      simp only [download, hexists] at h
      cases h
      rfl
    | false =>
      simp only [download, hexists] at h
      cases hkept : (keep tree (client.cachePath track file) (web file.url)).2 with
      | error e =>
        rw [hkept] at h
        cases h
      | ok =>
        rw [hkept] at h
        cases h
        rfl

/-- A call for a remote file that succeeds reads the copy. -/
theorem readSubtitle_of_respond (hfile : r.matcher.choose r.track = .ok file)
    (hremote : file.localPath? = none) (hok : (client.respond tree r).result = .ok s) :
    readSubtitle (client.respond tree r).tree r.track (client.cachePath r.track file) = .ok s := by
  simp only [respond, fetch, hfile, hremote] at hok ⊢
  cases hpath : (client.download r.web tree r.track file).result with
  | error e => rw [hpath] at hok; cases hok
  | ok path =>
    rw [hpath] at hok
    exact path_of_download hpath ▸ hok

/-- A call for a remote file whose copy can be read asks no server and changes nothing. -/
theorem respond_of_read {bytes : List UInt8} (hfile : r.matcher.choose r.track = .ok file)
    (hremote : file.localPath? = none)
    (hread : tree.read (client.cachePath r.track file) = .ok bytes) :
    client.respond tree r =
      ⟨tree, [], readSubtitle tree r.track (client.cachePath r.track file)⟩ := by
  have hexists := FileTree.exists?_of_read hread
  have hdone : client.download r.web tree r.track file =
      ⟨tree, [], .ok (client.cachePath r.track file)⟩ := by
    simp only [download, hexists]
  simp only [respond, fetch, hfile, hremote, hdone, Except.bind]

/-! ## Copies and the files they are of -/

/-- What was delivered is a file of the same language and with the same identifier. -/
def Delivery.IsOf (d : Delivery) (track : Track) (file : SubtitleFile) : Prop :=
  d.track.language? = track.language? ∧ d.file.id = file.id

theorem isOf_delivery? {d : Delivery} (hfile : r.matcher.choose r.track = .ok file)
    (h : client.delivery? tree r = some d) : d.IsOf r.track file := by
  obtain ⟨htrack, hchosen⟩ := chosen_of_delivery? h
  have hsame : d.file = file := Except.ok.inj (hchosen.symm.trans hfile)
  exact ⟨by rw [htrack], by rw [hsame]⟩

/-- A call for a remote file that succeeds, with nothing at the place of the copy at the start,
shows what was delivered there. -/
theorem exists_delivery (hfile : r.matcher.choose r.track = .ok file)
    (hremote : file.localPath? = none)
    (hnone : tree.entry? (tree.place (client.cachePath r.track file)) = none)
    (hok : (client.respond (client.after tree rs) r).result = .ok s) :
    ∃ d ∈ client.deliveries tree (rs ++ [r]),
      tree.place (client.cachePath d.track d.file) =
        tree.place (client.cachePath r.track file) ∧
      Srt.parse (Text.Utf8.decodeLossy d.body) = .ok s.cues := by
  obtain ⟨bytes, hread, hcues, -⟩ :=
    readSubtitle_eq_ok (readSubtitle_of_respond hfile hremote hok)
  rw [← after_concat] at hread
  have hentry := FileTree.entry?_of_read hread
  rw [FileTree.place_congr (client.here_after tree (rs ++ [r]))] at hentry
  rcases file_of_after hentry with hstart | ⟨d, hd, hplace, hbody⟩
  · rw [hnone] at hstart
    cases hstart
  · exact ⟨d, hd, hplace.symm, hbody ▸ hcues⟩

/-- If no other file was delivered to the place of the copy, the call shows its own file. -/
theorem own_content (hfile : r.matcher.choose r.track = .ok file)
    (hremote : file.localPath? = none)
    (hnone : tree.entry? (tree.place (client.cachePath r.track file)) = none)
    (hok : (client.respond (client.after tree rs) r).result = .ok s)
    (hothers : ∀ d ∈ client.deliveries tree rs,
      tree.place (client.cachePath d.track d.file) = tree.place (client.cachePath r.track file) →
        d.IsOf r.track file) :
    ∃ d ∈ client.deliveries tree (rs ++ [r]), d.IsOf r.track file ∧
      Srt.parse (Text.Utf8.decodeLossy d.body) = .ok s.cues := by
  obtain ⟨d, hd, hplace, hcues⟩ := exists_delivery hfile hremote hnone hok
  refine ⟨d, hd, ?_, hcues⟩
  rw [deliveries_concat, List.mem_append] at hd
  rcases hd with hearlier | hlast
  · exact hothers d hearlier hplace
  · exact isOf_delivery? hfile (Option.mem_toList.1 hlast)

/-- **Whose content a call shows.** Calls start with an empty cache, and one for a remote file kept
in the cache succeeds. It shows content that was delivered for a file of the same language with the
same identifier, unless that of another file was delivered to the same place before; and whoever
asks next for a file with the same cache name is shown the same, without a server being asked. -/
theorem own_content_unless_shared (hfile : r.matcher.choose r.track = .ok file)
    (hremote : file.localPath? = none) (hinside : client.StaysInside tree r.track)
    (hempty : ∀ name, tree.entry? (tree.place client.cache ++ [name]) = none)
    (hok : (client.respond (client.after tree rs) r).result = .ok s) :
    ((∀ d ∈ client.deliveries tree rs,
        tree.place (client.cachePath d.track d.file) = tree.place (client.cachePath r.track file) →
          d.IsOf r.track file) →
      ∃ d ∈ client.deliveries tree (rs ++ [r]), d.IsOf r.track file ∧
        Srt.parse (Text.Utf8.decodeLossy d.body) = .ok s.cues) ∧
    ∀ q other, q.matcher.choose q.track = .ok other → other.localPath? = none →
      cacheName q.track other = cacheName r.track file →
        client.respond (client.after tree (rs ++ [r])) q =
          ⟨client.after tree (rs ++ [r]), [], .ok { s with track := some q.track }⟩ := by
  have hnone : tree.entry? (tree.place (client.cachePath r.track file)) = none := by
    rw [place_cachePath, hinside]
    exact hempty _
  refine ⟨own_content hfile hremote hnone hok, ?_⟩
  intro q other hother hremote' hname
  obtain ⟨bytes, hread, -, hothers⟩ :=
    readSubtitle_eq_ok (readSubtitle_of_respond hfile hremote hok)
  have hpath : client.cachePath q.track other = client.cachePath r.track file := by
    rw [cachePath, cachePath, hname]
  rw [← after_concat] at hread hothers
  rw [← hpath] at hread
  rw [respond_of_read hother hremote' hread, hpath, hothers q.track]

/-- A call for a track with one remote file, at a server that has these words for it. -/
def sampleCall (language id words : String) : Request :=
  ⟨fun _ => .answered 200 (.ok (sampleText words)), sampleTrack language id, default⟩

/-- A cue that shows these words. -/
def sampleCue (words : String) : Cue := ⟨"1", 1000, 2000, [[⟨{}, words⟩]]⟩

theorem eq_ok_of_toOption {ε α : Type} {x : Except ε α} {a : α} (h : x.toOption = some a) :
    x = .ok a := by
  cases x with
  | error e => cases h
  | ok b => cases h; rfl

/-- A file is fetched in two languages and then once more: its first content is shown. -/
theorem own_content_unless_shared_once_more :
    let rs := [sampleCall "eng" "1|a" "one", sampleCall "fre" "1|a" "two"]
    let r := sampleCall "eng" "1|a" "three"
    sample.StaysInside bare r.track ∧
      (∀ name, bare.entry? (bare.place sample.cache ++ [name]) = none) ∧
      (sample.respond (sample.after bare rs) r).result =
        .ok ⟨"cache/eng_1_a.srt", some r.track, [sampleCue "one"]⟩ ∧
      ∃ d ∈ sample.deliveries bare (rs ++ [r]), d.IsOf r.track (sampleFile "1|a") ∧
        Srt.parse (Text.Utf8.decodeLossy d.body) = .ok [sampleCue "one"] := by
  intro rs r
  have hfile : r.matcher.choose r.track = .ok (sampleFile "1|a") := rfl
  have hinside : sample.StaysInside bare r.track :=
    staysInside_of_not_mem sample bare (by decide)
  have hempty : ∀ name, bare.entry? (bare.place sample.cache ++ [name]) = none := by
    intro name
    simp [bare, FileTree.entry?]
  have hok : (sample.respond (sample.after bare rs) r).result =
      .ok ⟨"cache/eng_1_a.srt", some r.track, [sampleCue "one"]⟩ :=
    eq_ok_of_toOption (by decide +kernel)
  have hothers : ∀ d ∈ sample.deliveries bare rs,
      bare.place (sample.cachePath d.track d.file) =
        bare.place (sample.cachePath r.track (sampleFile "1|a")) →
      d.IsOf r.track (sampleFile "1|a") := by
    unfold Delivery.IsOf
    decide +kernel
  exact ⟨hinside, hempty, hok,
    (own_content_unless_shared hfile rfl hinside hempty hok).1 hothers⟩

/-- **A call can show content of another file.** After a file is fetched, a call for a second one
of the same language shows what was delivered for the first, and nothing is delivered for it. -/
theorem content_of_another :
    let first := sampleCall "eng" "1|a" "one"
    let second := sampleCall "eng" "1/a" "two"
    second.matcher.choose second.track = .ok (sampleFile "1/a") ∧
      (sample.respond (sample.after bare [first]) second).result =
        .ok ⟨"cache/eng_1_a.srt", some second.track, [sampleCue "one"]⟩ ∧
      ∀ d ∈ sample.deliveries bare [first, second], ¬d.IsOf second.track (sampleFile "1/a") := by
  intro first second
  refine ⟨rfl, eq_ok_of_toOption (by decide +kernel), ?_⟩
  unfold Delivery.IsOf
  decide +kernel

/-! ## Files that share no copy -/

/-- A file that the name of its copy tells apart from others: the identifier has only letters and
digits, the language has no slash, and it is not the word that stands for no language. -/
structure IsPlain (track : Track) (file : SubtitleFile) : Prop where
  id : ∀ c ∈ file.id.toList, c.isAlphanum = true
  inside : '/' ∉ (track.language?.getD "custom").toList
  language : track.language? ≠ some "custom"

theorem IsPlain.copyName_eq {track : Track} (h : IsPlain track file) :
    copyName track file = track.language?.getD "custom" ++ "_" ++ file.id ++ ".srt" := by
  have hid : (file.id.toList.map fun c => if c.isAlphanum then c else '_') = file.id.toList := by
    conv_rhs => rw [← List.map_id file.id.toList]
    apply List.map_congr_left
    intro c hc
    simp [h.id c hc]
  simp only [copyName, Path.lastName_of_not_mem h.inside, hid, String.ofList_toList]

theorem language_eq_of_getD {track other : Track} (h : track.language? ≠ some "custom")
    (h' : other.language? ≠ some "custom")
    (heq : track.language?.getD "custom" = other.language?.getD "custom") :
    track.language? = other.language? := by
  cases hleft : track.language? with
  | none =>
    cases hright : other.language? with
    | none => rfl
    | some right => simp_all
  | some left =>
    cases hright : other.language? with
    | none => simp_all
    | some right => simp_all

/-- Two texts are cut alike at their last underscores. -/
theorem cut_unique {xs ys : List Char} {a b : List Char} (ha : '_' ∉ a) (hb : '_' ∉ b)
    (h : xs ++ '_' :: a = ys ++ '_' :: b) : xs = ys ∧ a = b := by
  rcases List.append_eq_append_iff.1 h with ⟨between, rfl, hmore⟩ | ⟨between, rfl, hmore⟩
  · cases between with
    | nil => simpa using hmore
    | cons c between =>
      obtain ⟨-, rfl⟩ := List.cons_eq_cons.1 hmore
      simp at ha
  · cases between with
    | nil => simpa [eq_comm] using hmore
    | cons c between =>
      obtain ⟨-, rfl⟩ := List.cons_eq_cons.1 hmore
      simp at hb

theorem IsPlain.not_mem_id {track : Track} (h : IsPlain track file) : '_' ∉ file.id.toList := by
  intro hmem
  have := h.id '_' hmem
  cases this

/-- Plain files with their copies at one place have the same language and the same identifier. -/
theorem IsPlain.eq_of_place {track other : Track} {file' : SubtitleFile} (h : IsPlain track file)
    (h' : IsPlain other file') (hplace : tree.place (client.cachePath track file) =
      tree.place (client.cachePath other file')) :
    track.language? = other.language? ∧ file.id = file'.id := by
  have hname : copyName track file = copyName other file' := by
    rw [place_cachePath, place_cachePath] at hplace
    exact List.singleton_inj.1 (List.append_inj' hplace (by simp)).2
  rw [h.copyName_eq, h'.copyName_eq, ← String.toList_inj] at hname
  simp only [String.toList_append] at hname
  have hcut := List.append_cancel_right hname
  obtain ⟨hlanguage, hid⟩ := cut_unique h.not_mem_id h'.not_mem_id (by simpa using hcut)
  exact ⟨language_eq_of_getD h.language h'.language (String.toList_inj.1 hlanguage),
    String.toList_inj.1 hid⟩

/-- Among plain files, every call shows content of its own file. -/
theorem own_content_of_isPlain (hfile : r.matcher.choose r.track = .ok file)
    (hremote : file.localPath? = none)
    (hempty : ∀ name, tree.entry? (tree.place client.cache ++ [name]) = none)
    (hok : (client.respond (client.after tree rs) r).result = .ok s)
    (hplain : IsPlain r.track file)
    (hothers : ∀ d ∈ client.deliveries tree rs, IsPlain d.track d.file) :
    ∃ d ∈ client.deliveries tree (rs ++ [r]), d.IsOf r.track file ∧
      Srt.parse (Text.Utf8.decodeLossy d.body) = .ok s.cues := by
  apply own_content hfile hremote _ hok
  · intro d hd hplace
    exact (hothers d hd).eq_of_place hplain hplace
  · rw [place_cachePath, staysInside_of_not_mem client tree hplain.inside]
    exact hempty _

end Subtitler.Client
