import Subtitler.Proofs.Client.Writing

/-!
# What a failed call leaves behind

A call that fails leaves all files as they were, unless a server has delivered content that could be
written but not be read as a subtitle (`failed_keeps_files_iff`). Without a delivery the tree is the
same, so the next call for the file asks the server again. But content that was written stays: every
call for a file with the same cache name then fails in the same way, and no server is asked any more
(`failed_copy_stays`).
-/

namespace Subtitler.Client

variable {client : Client} {tree : FileTree} {r q : Request} {d : Delivery} {e : SubtitleError}

/-- A call fails although content was written only if the content is malformed. -/
theorem malformed_of_writes (hwrites : client.Writes tree r d)
    (hfailed : (client.respond tree r).result = .error e) :
    Srt.parse (Text.Utf8.decodeLossy d.body) = .error e := by
  rw [result_of_writes hwrites] at hfailed
  cases hparse : Srt.parse (Text.Utf8.decodeLossy d.body) with
  | error cause =>
    rw [hparse] at hfailed
    cases hfailed
    rfl
  | ok cues =>
    rw [hparse] at hfailed
    cases hfailed

/-- The files are the same after a call if nothing is written, or only what was there. -/
theorem file?_respond_eq_iff : (client.respond tree r).tree.file? = tree.file? ↔
    ∀ d, client.Writes tree r d →
      tree.file? (tree.place (client.cachePath d.track d.file)) = some d.body := by
  constructor
  · intro hsame d hwrites
    rw [← hsame, file?_of_writes hwrites, Function.update_self]
  · intro hthere
    by_cases hwrites : ∃ d, client.Writes tree r d
    · obtain ⟨d, hd⟩ := hwrites
      rw [file?_of_writes hd, ← hthere d hd, Function.update_eq_self]
    · exact file?_of_not_writes (not_exists.1 hwrites)

/-- Content that was written and is malformed makes all later calls for it fail. -/
theorem respond_of_malformed (hwrites : client.Writes tree r d)
    (hfailed : (client.respond tree r).result = .error e) {other : SubtitleFile}
    (hother : q.matcher.choose q.track = .ok other) (hremote : other.localPath? = none)
    (hname : cacheName q.track other = cacheName d.track d.file) :
    client.respond (client.respond tree r).tree q = ⟨(client.respond tree r).tree, [], .error e⟩ := by
  have hpath : client.cachePath q.track other = client.cachePath d.track d.file := by
    rw [cachePath, cachePath, hname]
  have hread : (client.respond tree r).tree.read (client.cachePath q.track other) = .ok d.body := by
    rw [hpath, tree_respond, hwrites.1]
    exact FileTree.read_of_writeBelow hwrites.2
  have hshown : readSubtitle (client.respond tree r).tree q.track
      (client.cachePath q.track other) = .error e := by
    simp only [readSubtitle, checkFormat_cachePath, hread, bind, Except.bind, Except.mapError,
      malformed_of_writes hwrites hfailed]
  rw [respond_of_read hother hremote hread, hshown]

/-- Where no file stands, a call asks the server, or the path of the copy cannot be used. -/
theorem asked_or_refused {file : SubtitleFile} (hfile : r.matcher.choose r.track = .ok file)
    (hremote : file.localPath? = none) (hplace : tree.file? (tree.place
      (client.cachePath r.track file)) = none) :
    (client.respond tree r).asked = [file.url] ∨
      ∃ cause, (client.respond tree r).result = .error (.file cause) := by
  rw [asked_respond hfile]
  cases hexists : tree.exists? (client.cachePath r.track file) with
  | error cause =>
    right
    simp only [respond, fetch, hfile, hremote, download, hexists]
    exact ⟨cause, rfl⟩
  | ok found =>
    cases found with
    | false => exact .inl (if_pos ⟨hremote, rfl⟩)
    | true =>
      right
      simp only [respond, fetch, hfile, hremote, download, hexists, Except.bind]
      cases hread : tree.read (client.cachePath r.track file) with
      | ok content =>
        rw [FileTree.file?_eq_some_iff.2 (FileTree.entry?_of_read hread)] at hplace
        cases hplace
      | error cause =>
        refine ⟨cause, ?_⟩
        simp only [readSubtitle, checkFormat_cachePath, hread, bind, Except.bind, Except.mapError]

/-- If nothing is written, the next call for the same asks again. Only if content was delivered that
could not be written, it may fail before it asks, or find a file that was there all along. -/
theorem asks_again_of_not_writes (hnone : ∀ d, ¬client.Writes tree r d)
    (htrack : q.track = r.track) (hmatcher : q.matcher = r.matcher) :
    (client.respond (client.respond tree r).tree q).asked = (client.respond tree r).asked ∨
      ∃ d, client.delivery? tree r = some d ∧
        ((∃ cause, (client.respond (client.respond tree r).tree q).result =
            .error (.file cause)) ∨
          (tree.file? (tree.place (client.cachePath d.track d.file))).isSome) := by
  cases hdelivery : client.delivery? tree r with
  | none =>
    left
    have hsame : (client.respond tree r).tree = tree := by rw [tree_respond, hdelivery]
    rw [hsame, asked_congr htrack hmatcher]
  | some d =>
    obtain ⟨hd, hfile, hremote, hexists, -⟩ := delivery?_eq_some_iff.1 hdelivery
    cases hthere : tree.file? (tree.place (client.cachePath d.track d.file)) with
    | some content => exact .inr ⟨d, rfl, .inr (by rw [hthere]; rfl)⟩
    | none =>
      have hasked : (client.respond tree r).asked = [d.file.url] := by
        rw [asked_respond hfile, if_pos ⟨hremote, hexists⟩]
      have hplace : (client.respond tree r).tree.file? ((client.respond tree r).tree.place
          (client.cachePath q.track d.file)) = none := by
        rw [file?_of_not_writes hnone, FileTree.place_congr (here_respond client tree r), htrack,
          ← hd, hthere]
      rcases asked_or_refused (htrack ▸ hmatcher ▸ hfile) hremote hplace with hagain | hfails
      · exact .inl (hagain.trans hasked.symm)
      · exact .inr ⟨d, rfl, .inl hfails⟩

/-- **What a failed call leaves behind.** All files are as before, unless content was written that
was not there; and then the content is malformed, and each later call for a file with the same cache
name fails likewise without a server being asked. If nothing was written, the next call for the same
asks again, unless what was delivered cannot be put in its place. -/
theorem failed_keeps_files_iff (hfailed : (client.respond tree r).result = .error e) :
    ((client.respond tree r).tree.file? = tree.file? ↔
      ∀ d, client.Writes tree r d →
        tree.file? (tree.place (client.cachePath d.track d.file)) = some d.body) ∧
    (∀ d, client.Writes tree r d → Srt.parse (Text.Utf8.decodeLossy d.body) = .error e ∧
      ∀ q other, q.matcher.choose q.track = .ok other → other.localPath? = none →
        cacheName q.track other = cacheName d.track d.file →
          client.respond (client.respond tree r).tree q =
            ⟨(client.respond tree r).tree, [], .error e⟩) ∧
    ((∀ d, ¬client.Writes tree r d) → ∀ q, q.track = r.track → q.matcher = r.matcher →
      (client.respond (client.respond tree r).tree q).asked = (client.respond tree r).asked ∨
        ∃ d, client.delivery? tree r = some d ∧
          ((∃ cause, (client.respond (client.respond tree r).tree q).result =
              .error (.file cause)) ∨
            (tree.file? (tree.place (client.cachePath d.track d.file))).isSome)) := by
  refine ⟨file?_respond_eq_iff, ?_, ?_⟩
  · intro d hwrites
    refine ⟨malformed_of_writes hwrites hfailed, ?_⟩
    intro q other hother hremote hname
    exact respond_of_malformed hwrites hfailed hother hremote hname
  · intro hnone q htrack hmatcher
    exact asks_again_of_not_writes hnone htrack hmatcher

/-- A call at a server that answers in the same way whatever it is asked. -/
def sampleRequest (answer : Exchange) : Request :=
  ⟨fun _ => answer, sampleTrack "eng" "1|a", default⟩

/-- A body that breaks off is not kept, and the next call asks for it again. -/
theorem failed_keeps_files_iff_brokenOff :
    let broken := sampleRequest (.answered 200 (.error "connection closed"))
    let next := sampleRequest (.answered 200 (.ok (sampleText "Hi")))
    (sample.respond bare broken).result = .error (.request "connection closed") ∧
      (sample.respond bare broken).tree.file? = bare.file? ∧
      (sample.respond (sample.respond bare broken).tree next).asked =
        (sample.respond bare broken).asked := by
  intro broken next
  have hfailed : (sample.respond bare broken).result = .error (.request "connection closed") := by
    decide +kernel
  have hdelivery : sample.delivery? bare broken = none := by decide +kernel
  have hnone : ∀ d, ¬sample.Writes bare broken d := by
    intro d hwrites
    rw [Writes, hdelivery] at hwrites
    cases hwrites.1
  obtain ⟨hfiles, -, hagain⟩ := failed_keeps_files_iff hfailed
  refine ⟨hfailed, hfiles.2 fun d hwrites => absurd hwrites (hnone d), ?_⟩
  rcases hagain hnone next rfl rfl with hasked | ⟨d, hd, -⟩
  · exact hasked
  · rw [hdelivery] at hd
    cases hd

/-- A subtitle that breaks off where its first time should stand. -/
def malformedText : List UInt8 := Text.Utf8.bytesOf "1\nthis is no time\nHi"

/-- **A failed call can leave a copy.** A server sends something that is no subtitle: the call fails,
but the file is there from then on, so the next call fails as well, though a server would have a
subtitle by now. -/
theorem failed_copy_stays :
    let first := sampleRequest (.answered 200 (.ok malformedText))
    let next := sampleRequest (.answered 200 (.ok (sampleText "Hi")))
    let failure : SubtitleError := .malformed 2 "invalid cue timing \"this is no time\""
    let after := (sample.respond bare first).tree
    (sample.respond bare first).result = .error failure ∧
      bare.file? ["cache", "eng_1_a.srt"] = none ∧
      after.file? ["cache", "eng_1_a.srt"] = some malformedText ∧
      (sample.respond after next).asked = [] ∧ (sample.respond after next).result = .error failure := by
  decide +kernel

end Subtitler.Client
