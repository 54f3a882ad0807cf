import Subtitler.Proofs.Client.Sharing
import Subtitler.Proofs.FileTree.Keeping
import Subtitler.Proofs.Text.Split

/-!
# What a call writes

A call writes at most one file, the copy of what a server has delivered (`file?_respond`). A copy
that is written can always be read back and has the extension of a format that is understood, so
the result of such a call is what its content is read as (`result_of_writes`).
-/

namespace Subtitler

/-! ## The extension of a copy -/

namespace Path

/-- A path in a folder below a directory is the folder below the directory, and then the rest. -/
theorem join_append (directory : String) {folder rest : String}
    (hfolder : folder = "" ∨ ∃ start, folder = start ++ "/")
    (hrest : rest.toList.head? ≠ some '/') :
    join directory (folder ++ rest) = join directory folder ++ rest := by
  obtain rfl | ⟨start, rfl⟩ := hfolder
  · have hhead : ¬"".toList.head? = some '/' := by simp
    rw [String.empty_append, join, if_neg hrest, join, if_neg hhead]
    split_ifs <;> simp [String.append_assoc]
  · have hhead : (start ++ "/" ++ rest).toList.head? = (start ++ "/").toList.head? := by
      simp [List.head?_append]
    rw [join, join, hhead]
    split_ifs <;> simp [String.append_assoc]

theorem join_folder_cases (directory : String) {folder : String}
    (hfolder : folder = "" ∨ ∃ start, folder = start ++ "/") :
    join directory folder = "" ∨ ∃ start, join directory folder = start ++ "/" := by
  obtain rfl | ⟨start, rfl⟩ := hfolder
  · have hhead : ¬"".toList.head? = some '/' := by simp
    rw [join, if_neg hhead]
    split_ifs with h
    · rcases Bool.or_eq_true_iff.1 h with hempty | hslash
      · exact .inl (by simpa using hempty)
      · obtain ⟨start, hstart⟩ := List.getLast?_eq_some_iff.1 (by simpa using hslash)
        refine .inr ⟨String.ofList start, ?_⟩
        apply String.toList_inj.1
        simp [hstart]
    · exact .inr ⟨directory, by simp⟩
  · rw [join]
    split_ifs
    · exact .inr ⟨start, rfl⟩
    · exact .inr ⟨directory ++ start, by simp [String.append_assoc]⟩
    · exact .inr ⟨directory ++ "/" ++ start, by simp [String.append_assoc]⟩

theorem fileName?_append {start name : String}
    (hstart : start = "" ∨ ∃ above, start = above ++ "/") (hslash : '/' ∉ name.toList)
    (hempty : name ≠ "") (hdot : name ≠ ".") (hdots : name ≠ "..") :
    fileName? (start ++ name) = some name := by
  have hname : Text.splitBy (· == '/') name.toList = [name.toList] := by
    apply Text.splitBy_of_forall_not
    intro c hc
    have : c ≠ '/' := fun he => hslash (he ▸ hc)
    simpa using this
  have hpieces : ∃ above, (Text.splitBy (· == '/') (start ++ name).toList).map String.ofList =
      above ++ [name] := by
    obtain rfl | ⟨above, rfl⟩ := hstart
    · exact ⟨[], by simp [hname]⟩
    · refine ⟨(Text.splitBy (· == '/') above.toList).map String.ofList, ?_⟩
      have hsplit : Text.splitBy (· == '/') (above ++ "/" ++ name).toList =
          Text.splitBy (· == '/') above.toList ++ Text.splitBy (· == '/') name.toList := by
        rw [String.toList_append, String.toList_append, List.append_assoc]
        exact Text.splitBy_append_cons _ _ (by decide)
      rw [hsplit, hname, List.map_append]
      simp
  obtain ⟨above, habove⟩ := hpieces
  have hlast : (parts (start ++ name)).names.getLast? = some name := by
    simp only [parts, habove, List.filter_append]
    simp [hempty, hdot]
  rw [fileName?, hlast]
  split
  · rename_i h
    exact absurd (Option.some.inj h) hdots
  · rfl

end Path

namespace Client

variable {client : Client} {tree : FileTree} {r : Request} {file : SubtitleFile} {d : Delivery}
  {e : SubtitleError}

theorem cachePath_eq (client : Client) (track : Track) (file : SubtitleFile) :
    client.cachePath track file = client.folder track ++ copyName track file := by
  rw [cachePath, cacheName_eq, Path.join_append client.cache (Path.folder_cases _), folder]
  exact fun h => not_mem_copyName track file (List.mem_of_mem_head? h)

theorem extension?_cachePath (client : Client) (track : Track) (file : SubtitleFile) :
    Path.extension? (client.cachePath track file) = some "srt" := by
  have hfile : Path.fileName? (client.cachePath track file) = some (copyName track file) := by
    rw [cachePath_eq]
    exact Path.fileName?_append (Path.join_folder_cases _ (Path.folder_cases _))
      (not_mem_copyName track file) (copyName_ne _ _ (by decide)) (copyName_ne _ _ (by decide))
      (copyName_ne _ _ (by decide))
  have hsplit : ∃ stem, stem ≠ [] ∧
      Text.splitLast? '.' (copyName track file).toList = some (stem, "srt".toList) := by
    refine ⟨(Path.lastName (track.language?.getD "custom") ++ "_" ++ String.ofList
      (file.id.toList.map fun c => if c.isAlphanum then c else '_')).toList, by simp, ?_⟩
    have hext : '.' ∉ "srt".toList := by decide
    rw [← Text.splitLast?_append '.' _ hext, copyName, String.toList_append]
    rfl
  obtain ⟨stem, hstem, hsplit⟩ := hsplit
  simp [Path.extension?, hfile, hsplit, hstem]

theorem checkFormat_cachePath (client : Client) (track : Track) (file : SubtitleFile) :
    checkFormat (client.cachePath track file) = .ok () := by
  have hformat : SubtitleFormat.ofExtension? "srt" = some .srt := by decide +kernel
  simp only [checkFormat, extension?_cachePath, hformat]

/-! ## When a server is asked -/

/-- A server is asked for a remote file if its copy cannot be found. -/
theorem asked_respond (hfile : r.matcher.choose r.track = .ok file) :
    (client.respond tree r).asked =
      if file.localPath? = none ∧ tree.exists? (client.cachePath r.track file) = .ok false then
        [file.url]
      else [] := by
  simp only [respond, fetch, hfile]
  cases hlocal : file.localPath? with
  | some path => simp
  | none =>
    cases hexists : tree.exists? (client.cachePath r.track file) with
    | error cause => simp [download, hexists]
    | ok found => cases found <;> simp [download, hexists]

theorem asked_respond_error {cause : SubtitleError} (h : r.matcher.choose r.track = .error cause) :
    (client.respond tree r).asked = [] := by
  simp only [respond, fetch, h]

/-- The answers of a server make no difference to whether it is asked. -/
theorem asked_congr {q : Request} (htrack : q.track = r.track) (hmatcher : q.matcher = r.matcher) :
    (client.respond tree q).asked = (client.respond tree r).asked := by
  cases hchoose : r.matcher.choose r.track with
  | error cause =>
    rw [asked_respond_error hchoose, asked_respond_error (htrack ▸ hmatcher ▸ hchoose)]
  | ok file => rw [asked_respond hchoose, asked_respond (htrack ▸ hmatcher ▸ hchoose), htrack]

theorem delivery?_eq_some_iff : client.delivery? tree r = some d ↔
    d.track = r.track ∧ r.matcher.choose r.track = .ok d.file ∧ d.file.localPath? = none ∧
      tree.exists? (client.cachePath r.track d.file) = .ok false ∧
      brought? (r.web d.file.url) = some d.body := by
  unfold delivery?
  split
  · rename_i cause hchoose
    simp [hchoose]
  rename_i file hfile
  rw [asked_respond hfile, hfile]
  by_cases hasked : file.localPath? = none ∧ tree.exists? (client.cachePath r.track file) = .ok false
  · rw [if_pos hasked, if_neg (List.cons_ne_nil _ _), Option.map_eq_some_iff]
    constructor
    · rintro ⟨body, hbody, rfl⟩
      exact ⟨rfl, rfl, hasked.1, hasked.2, hbody⟩
    · rintro ⟨htrack, hchosen, -, -, hbody⟩
      cases hchosen
      exact ⟨d.body, hbody, by rw [← htrack]⟩
  · rw [if_neg hasked, if_pos rfl]
    constructor
    · intro h
      cases h
    · rintro ⟨-, hchosen, hremote, hexists, -⟩
      cases hchosen
      exact absurd ⟨hremote, hexists⟩ hasked

/-! ## What is written -/

/-- The content that is delivered is written. -/
def Writes (client : Client) (tree : FileTree) (r : Request) (d : Delivery) : Prop :=
  client.delivery? tree r = some d ∧
    (tree.writeBelow (client.cachePath d.track d.file) d.body).2 = .ok ()

theorem file?_of_writes (h : client.Writes tree r d) : (client.respond tree r).tree.file? =
    Function.update tree.file? (tree.place (client.cachePath d.track d.file)) (some d.body) := by
  rw [tree_respond, h.1]
  exact FileTree.file?_writeBelow_ok h.2

theorem file?_of_not_writes (h : ∀ d, ¬client.Writes tree r d) :
    (client.respond tree r).tree.file? = tree.file? := by
  rw [tree_respond]
  split
  · rfl
  · rename_i d hd
    cases hwritten : (tree.writeBelow (client.cachePath d.track d.file) d.body).2 with
    | ok => exact absurd ⟨hd, hwritten⟩ (h d)
    | error cause => exact FileTree.file?_writeBelow_error hwritten

/-- A call takes no directory away. -/
theorem keeps_respond (client : Client) (tree : FileTree) (r : Request) :
    tree.Keeps (client.respond tree r).tree := by
  rw [tree_respond]
  split
  · exact .refl tree
  · exact tree.keeps_writeBelow _ _

theorem keep_of_brought {answer : Exchange} {body : List UInt8} (h : brought? answer = some body)
    (tree : FileTree) (path : String) : keep tree path answer =
      ((tree.writeBelow path body).1, (tree.writeBelow path body).2.mapError .file) := by
  unfold brought? at h
  split at h
  · split_ifs at h with hstatus
    cases h
    simp [keep, hstatus]
  · cases h

/-- If content is written, the call gives what it is read as. -/
theorem result_of_writes (h : client.Writes tree r d) : (client.respond tree r).result =
    (Srt.parse (Text.Utf8.decodeLossy d.body)).map fun cues =>
      ⟨client.cachePath d.track d.file, some d.track, cues⟩ := by
  obtain ⟨htrack, hfile, hremote, hexists, hbody⟩ := delivery?_eq_some_iff.1 h.1
  have hwritten := h.2
  rw [htrack] at hwritten ⊢
  have hdone : client.download r.web tree r.track d.file =
      ⟨(tree.writeBelow (client.cachePath r.track d.file) d.body).1, [d.file.url],
        .ok (client.cachePath r.track d.file)⟩ := by
    simp only [download, hexists, keep_of_brought hbody, hwritten]
    rfl
  simp only [respond, fetch, hfile, hremote, hdone]
  simp only [Except.bind, readSubtitle, checkFormat_cachePath, bind,
    FileTree.read_of_writeBelow hwritten, Except.mapError]
  cases Srt.parse (Text.Utf8.decodeLossy d.body) <;> rfl

end Client

end Subtitler
