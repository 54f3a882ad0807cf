import Subtitler.Proofs.Media.Name
import Subtitler.Proofs.Subtitle.Choosing

/-!
# A file named like the medium

Two names resemble each other if they are the same up to separators and the case of letters
(`Resembles`).

**Theorem (`choose_namesake`).** If a track has a SubRip file whose name resembles that of the
medium at an address, then a file named like the medium is chosen, whatever the other files are.

A file loses a known extension only, an address any extension, so a name with points in it is
compared whole on both sides. The lower case of a capital sigma depends on what stands around it,
separators included; but a text that resembles ASCII characters has none (`Resembles.not_sigma`),
and every other character is lowered by itself.
-/

namespace Subtitler

/-! ## The lower case, one character at a time -/

namespace Text

/-- The capital sigma. -/
def sigma : Char := 'Σ'

theorem lowerAfter_of_not_mem {cs : List Char} (h : sigma ∉ cs) (before : List Char) :
    lowerAfter before cs = cs.flatMap lowerChar := by
  induction cs generalizing before with
  | nil => rfl
  | cons c cs ih =>
    have hc : c.toNat ≠ 0x3A3 := by
      intro hc
      obtain rfl : c = sigma := Char.toNat_inj.1 hc
      exact h List.mem_cons_self
    have hcs : sigma ∉ cs := fun hcs => h (List.mem_cons_of_mem c hcs)
    rw [lowerAfter, if_neg hc, ih hcs, List.flatMap_cons]

/-- The capital sigma has the lower case of no ASCII character. -/
theorem ne_sigma_of_ascii {c d : Char} (hd : d.toNat < 0x80) (h : lowerChar c = lowerChar d) :
    c ≠ sigma := by
  rintro rfl
  have hsigma : lowerChar sigma = ['σ'] := by decide +kernel
  have hascii : ∀ n < 0x80, lowerChar (Char.ofNat n) ≠ ['σ'] := by decide +kernel
  have hne := hascii d.toNat hd
  rw [Char.ofNat_toNat, ← h] at hne
  exact hne hsigma

theorem lowerChar_of_isBlank {c : Char} (h : isBlank c = true) : lowerChar c = [c] := by
  have hblanks : ∀ n ∈ List.range' 0x9 5 ++ [0x20, 0x85, 0xA0, 0x1680] ++ List.range' 0x2000 11 ++
      [0x2028, 0x2029, 0x202F, 0x205F, 0x3000], lowerChar (Char.ofNat n) = [Char.ofNat n] := by
    decide +kernel
  have hlower := hblanks c.toNat (by
    simp only [isBlank, Bool.or_eq_true, Bool.and_eq_true, decide_eq_true_eq, beq_iff_eq] at h
    simp only [List.mem_append, List.mem_range'_1, List.mem_cons, List.not_mem_nil, or_false]
    omega)
  rwa [Char.ofNat_toNat] at hlower

end Text

namespace Matcher

/-! ## Names that resemble each other -/

/-- Two texts are the same up to separators, which can be inserted, deleted and so replaced, and up
to the case of letters. -/
inductive Resembles : List Char → List Char → Prop
  | nil : Resembles [] []
  | insert {c cs ds} (hc : isSeparator c = true) (h : Resembles cs ds) : Resembles (c :: cs) ds
  | delete {d cs ds} (hd : isSeparator d = true) (h : Resembles cs ds) : Resembles cs (d :: ds)
  | letter {c d cs ds} (hcase : Text.lowerChar c = Text.lowerChar d) (h : Resembles cs ds) :
      Resembles (c :: cs) (d :: ds)

/-- A name without separators, each character lowered by itself. -/
def letters (cs : List Char) : List Char :=
  (cs.flatMap Text.lowerChar).filter fun c => !isSeparator c

theorem normalize_eq_letters {cs : List Char} (h : Text.sigma ∉ cs) :
    normalize cs = letters cs := by
  rw [normalize, Text.lower, Text.lowerAfter_of_not_mem h, letters]

theorem lowerChar_of_isSeparator {c : Char} (h : isSeparator c = true) :
    Text.lowerChar c = [c] := by
  have hmarks : ∀ c ∈ ['[', ']', '(', ')', '_', '-', '.'], Text.lowerChar c = [c] := by
    simp [Text.lowerChar]
  rcases Bool.or_eq_true_iff.1 h with hmark | hblank
  · simp only [Bool.or_eq_true, beq_iff_eq] at hmark
    exact hmarks c (by simpa [or_assoc] using hmark)
  · exact Text.lowerChar_of_isBlank hblank

theorem letters_cons (c : Char) (cs : List Char) :
    letters (c :: cs) = letters [c] ++ letters cs := by
  simp [letters]

theorem letters_of_isSeparator {c : Char} (h : isSeparator c = true) : letters [c] = [] := by
  simp [letters, lowerChar_of_isSeparator h, h]

variable {cs ds : List Char}

theorem Resembles.letters_eq (h : Resembles cs ds) : letters cs = letters ds := by
  induction h with
  | nil => rfl
  | @insert c cs _ hc _ ih => rw [letters_cons, letters_of_isSeparator hc, ih, List.nil_append]
  | @delete d _ ds hd _ ih => rw [letters_cons d, letters_of_isSeparator hd, ih, List.nil_append]
  | @letter c d cs ds hcase _ ih =>
    rw [letters_cons, letters_cons d, ih]
    simp [letters, hcase]

theorem Resembles.not_sigma (h : Resembles cs ds) (hascii : ∀ d ∈ ds, d.toNat < 0x80) :
    Text.sigma ∉ cs := by
  induction h with
  | nil => exact List.not_mem_nil
  | @insert c cs _ hc _ ih =>
    have hne : Text.sigma ≠ c := by
      rintro rfl
      exact absurd hc (by decide)
    exact List.not_mem_cons_of_ne_of_not_mem hne (ih hascii)
  | delete _ _ ih => exact ih (List.forall_mem_cons.1 hascii).2
  | letter hcase _ ih =>
    obtain ⟨hd, hds⟩ := List.forall_mem_cons.1 hascii
    exact List.not_mem_cons_of_ne_of_not_mem (Text.ne_sigma_of_ascii hd hcase).symm (ih hds)

/-- What resembles a name of ASCII characters is that name once both are normalised. -/
theorem Resembles.normalize_eq (h : Resembles cs ds) (hascii : ∀ d ∈ ds, d.toNat < 0x80) :
    normalize cs = normalize ds := by
  have hds : Text.sigma ∉ ds := fun hds => absurd (hascii _ hds) (by decide)
  rw [normalize_eq_letters (h.not_sigma hascii), normalize_eq_letters hds, h.letters_eq]

/-! ## Files named like the medium -/

theorem name_ofPlayback (a : Media.Address) (quality : Option String) :
    (ofPlayback (some a.url) quality).name = some a.name := by
  simp [ofPlayback, Media.name_url, a.name_ne]

/-- **A namesake wins.** If a file of a track is named like the medium at an address, up to
separators and case, then so is the file that is chosen. -/
theorem choose_namesake (a : Media.Address) (hascii : ∀ c ∈ a.name.toList, c.toNat < 0x80)
    (quality : Option String) (track : Track)
    (hfile : ∃ file ∈ track.files, ∃ stem, stem ≠ "" ∧ Resembles stem.toList a.name.toList ∧
      file.name = stem ++ ".srt") :
    ∃ file ∈ track.files, (ofPlayback (some a.url) quality).choose track = .ok file ∧
      normalize (withoutSubtitleExtension file.name.toList) = normalize a.name.toList := by
  obtain ⟨namesake, hmem, stem, hstem, hresembles, hname⟩ := hfile
  have hext : HasExtension namesake.name.toList stem.toList "srt".toList :=
    ⟨by rw [hname, String.toList_append]; rfl, by simpa using hstem, by decide, by decide⟩
  have hnamed : (ofPlayback (some a.url) quality).Admits .named namesake :=
    ⟨a.name, stem.toList, name_ofPlayback a quality, .stem hext, hresembles.normalize_eq hascii⟩
  obtain ⟨-, hnil⟩ | ⟨t, file, hok, hsuits⟩ := choose_cases (ofPlayback (some a.url) quality) track
  · exact absurd hmem (hnil ▸ List.not_mem_nil)
  · cases t with
    | named =>
      obtain ⟨name, base, hname, hbase, hnormal⟩ := hsuits.admits
      rw [name_ofPlayback, Option.some.injEq] at hname
      rw [← withoutSubtitleExtension_eq_iff.2 hbase, ← hname] at hnormal
      exact ⟨file, hsuits.mem, hok, hnormal⟩
    | ofQuality => exact absurd hnamed (hsuits.first .named (by simp [Tier.before]) _ hmem)
    | any => exact absurd hnamed (hsuits.first .named (by simp [Tier.before]) _ hmem)

/-- A namesake wins over a file with more downloads. -/
theorem choose_namesake_episode :
    let track := Track.language none "eng" [.ofName "1" "Other.720p.srt" "http://host/1" .nan 1000,
      .ofName "2" "show s01.srt" "http://host/2" .nan 1]
    ∃ file ∈ track.files,
      (ofPlayback (some "http://host/a/Show.S01.mkv?x=1") (some "720p")).choose track = .ok file ∧
        normalize (withoutSubtitleExtension file.name.toList) = normalize "Show.S01".toList := by
  have hresembles : Resembles ['s', 'h', 'o', 'w', ' ', 's', '0', '1']
      ['S', 'h', 'o', 'w', '.', 'S', '0', '1'] :=
    .letter (by decide) <| .letter (by decide) <| .letter (by decide) <| .letter (by decide) <|
      .insert (by decide) <| .delete (by decide) <| .letter (by decide) <| .letter (by decide) <|
      .letter (by decide) .nil
  exact choose_namesake ⟨"http", "host/a", "Show.S01", "mkv", "?x=1", by simp, by simp, by decide,
    by simp, by simp, by simp⟩ (by simp) (some "720p") _
    ⟨_, List.mem_cons_of_mem _ List.mem_cons_self, "show s01", by decide, by simpa using hresembles,
      by decide⟩

end Matcher

end Subtitler
