import Mathlib.Data.List.Induction
import Subtitler.Proofs.Number.Order
import Subtitler.Proofs.Text.Split
import Subtitler.Subtitle.Matcher

/-!
# The file that suits best

**Theorem (`choose_best`).** A matcher finds no file exactly if a track has none. Otherwise it gives
a file of the first tier that has any, and no file of that tier outranks it. If every score in the
tier is a number, then it is the earliest of the best: it outranks all files of the tier that come
before it.

A file is of the first tier if it is named like the medium. Of its own name, a known extension does
not count, in either case; any other name counts as a whole (`withoutSubtitleExtension_eq_iff`).

A score that is not a number is neither better nor worse than any other. So files that do not
outrank each other need not rank equally with the same files, but outranking is still transitive
(`Outranks.trans`), and that is enough for going through the files once.
-/

namespace Subtitler

/-! ## Ranks -/

namespace SubtitleFile

/-- A file is better than another one: it has more downloads, or equally many and a known quality
where the other's is unknown, or else the higher score. The keys of scores are in the order of the
scores (`Binary.below_iff_less`). -/
def Outranks (a b : SubtitleFile) : Prop :=
  b.downloads < a.downloads ∨
    a.downloads = b.downloads ∧
      (a.quality.isSome ∧ b.quality.isNone ∨
        a.quality.isSome = b.quality.isSome ∧ b.score.Below .single a.score)

theorem compareScore_eq_gt_iff (a b : SubtitleFile) :
    a.compareScore b = .gt ↔ a.score.Below .single b.score := by
  unfold compareScore Binary.Below
  cases a.score.orderKey .single <;> cases b.score.orderKey .single <;>
    simp [compare_gt_iff_gt]

theorem compareRank_eq_gt_iff (a b : SubtitleFile) : a.compareRank b = .gt ↔ b.Outranks a := by
  have hdownloads : a.downloads.toNat < b.downloads.toNat ↔ a.downloads < b.downloads :=
    UInt32.lt_iff_toNat_lt.symm
  have hequal : b.downloads.toNat = a.downloads.toNat ↔ b.downloads = a.downloads :=
    UInt32.toNat_inj
  unfold compareRank Outranks
  rw [Ordering.then_eq_gt, Nat.compare_eq_gt, Nat.compare_eq_eq, hdownloads, hequal]
  cases ha : a.quality <;> cases hb : b.quality <;> simp [compareScore_eq_gt_iff]

theorem Outranks.irrefl (a : SubtitleFile) : ¬a.Outranks a := by
  rintro (h | ⟨-, ⟨hknown, hunknown⟩ | ⟨-, h⟩⟩)
  · exact UInt32.lt_irrefl _ h
  · simp_all
  · exact Binary.Below.irrefl _ h

theorem Outranks.trans {a b c : SubtitleFile} (hab : a.Outranks b) (hbc : b.Outranks c) :
    a.Outranks c := by
  have hscore : b.score.Below .single a.score → c.score.Below .single b.score →
      c.score.Below .single a.score := fun hab hbc => hbc.trans hab
  unfold Outranks at *
  generalize a.quality = p, b.quality = q, c.quality = r at *
  cases p <;> cases q <;> cases r <;> grind

/-- Among files whose scores are numbers, who does not outrank `a` is outranked by all that
outrank `a`. -/
theorem Outranks.of_not_outranks {a b c : SubtitleFile} (hca : c.Outranks a)
    (hba : ¬b.Outranks a) (hb : b.score ≠ .nan) : c.Outranks b := by
  have hscore : a.score.Below .single c.score → ¬a.score.Below .single b.score →
      b.score.Below .single c.score := fun hac hab => hac.of_not_below hab hb
  unfold Outranks at *
  generalize a.quality = p, b.quality = q, c.quality = r at *
  cases p <;> cases q <;> cases r <;> grind

/-! ## The best of a list -/

/-- A file of a list is the best: none outranks it, and if all scores are numbers, then it outranks
all files before it. -/
structure IsBest (files : List SubtitleFile) (file : SubtitleFile) : Prop where
  mem : file ∈ files
  not_outranked : ∀ other ∈ files, ¬other.Outranks file
  earliest : (∀ other ∈ files, other.score ≠ .nan) → ∃ before after,
    files = before ++ file :: after ∧ ∀ other ∈ before, file.Outranks other

theorem isBest_singleton (file : SubtitleFile) : IsBest [file] file where
  mem := List.mem_singleton_self file
  not_outranked _ h := List.mem_singleton.1 h ▸ Outranks.irrefl file
  earliest _ := ⟨[], [], rfl, fun _ h => absurd h List.not_mem_nil⟩

/-- One more file at the end of a list is the best, or the best stays as it is. -/
theorem IsBest.concat {files : List SubtitleFile} {best : SubtitleFile} (h : IsBest files best)
    (file : SubtitleFile) :
    IsBest (files ++ [file]) (if best.compareRank file = .gt then file else best) := by
  split_ifs with hrank
  · have hbetter : file.Outranks best := (compareRank_eq_gt_iff best file).1 hrank
    refine ⟨List.mem_append_right _ (List.mem_singleton_self file), ?_, fun hnumbers => ?_⟩
    · intro other hother houtranks
      rcases List.mem_append.1 hother with hbefore | hlast
      · exact h.not_outranked other hbefore (houtranks.trans hbetter)
      · exact Outranks.irrefl file (List.mem_singleton.1 hlast ▸ houtranks)
    · refine ⟨files, [], rfl, fun other hother => ?_⟩
      exact hbetter.of_not_outranks (h.not_outranked other hother)
        (hnumbers other (List.mem_append_left _ hother))
  · have hworse : ¬file.Outranks best := fun hbetter =>
      hrank ((compareRank_eq_gt_iff best file).2 hbetter)
    refine ⟨List.mem_append_left _ h.mem, fun other hother => ?_, fun hnumbers => ?_⟩
    · rcases List.mem_append.1 hother with hbefore | hlast
      · exact h.not_outranked other hbefore
      · exact List.mem_singleton.1 hlast ▸ hworse
    · obtain ⟨before, after, rfl, hbefore⟩ :=
        h.earliest fun other hother => hnumbers other (List.mem_append_left _ hother)
      exact ⟨before, after ++ [file], by simp, hbefore⟩

theorem isBest_of_best? {files : List SubtitleFile} {file : SubtitleFile}
    (h : best? files = some file) : IsBest files file := by
  cases files with
  | nil => cases h
  | cons first rest =>
    obtain rfl := Option.some.inj h
    induction rest using List.reverseRecOn with
    | nil => exact isBest_singleton first
    | append_singleton rest last ih =>
      rw [List.foldl_append]
      exact (ih rfl).concat last

theorem best?_eq_none_iff (files : List SubtitleFile) : best? files = none ↔ files = [] := by
  cases files <;> simp [best?]

end SubtitleFile

/-! ## Names without an extension -/

/-- The extensions of subtitle files in lower case. -/
def subtitleExtensions : List String := ["srt", "vtt", "webvtt", "sub", "ass", "ssa"]

theorem SubtitleFormat.ofExtension?_isSome_iff (extension : String) :
    (ofExtension? extension).isSome = true ↔ Text.lowered extension ∈ subtitleExtensions := by
  unfold ofExtension? subtitleExtensions
  split <;> simp_all

namespace Matcher

/-- The last point of a name stands between a stem that is not empty and the extension of a subtitle
file, in upper or lower case. -/
structure HasExtension (name stem ext : List Char) : Prop where
  eq : name = stem ++ '.' :: ext
  stem_ne : stem ≠ []
  last : '.' ∉ ext
  known : Text.lowered (String.ofList ext) ∈ subtitleExtensions

/-- What is left of a name without the extension of a subtitle file: its stem, or the whole name if
it has no such extension. -/
inductive BaseName (name : List Char) : List Char → Prop
  | stem {stem ext} (h : HasExtension name stem ext) : BaseName name stem
  | whole (h : ∀ stem ext, ¬HasExtension name stem ext) : BaseName name name

variable {name stem ext : List Char}

theorem HasExtension.withoutSubtitleExtension_eq (h : HasExtension name stem ext) :
    withoutSubtitleExtension name = stem := by
  obtain ⟨rfl, hstem, hlast, hknown⟩ := h
  rw [withoutSubtitleExtension, Text.splitLast?_append '.' stem hlast]
  simp [hstem, SubtitleFormat.ofExtension?_isSome_iff, hknown]

theorem withoutSubtitleExtension_eq_self (h : ∀ stem ext, ¬HasExtension name stem ext) :
    withoutSubtitleExtension name = name := by
  unfold withoutSubtitleExtension
  split
  · rename_i stem ext hsplit
    obtain ⟨heq, hlast⟩ := Text.splitLast?_eq_some_iff.1 hsplit
    refine if_neg fun hext => h stem ext ⟨heq, ?_, hlast, ?_⟩ <;>
      simp_all [SubtitleFormat.ofExtension?_isSome_iff]
  · rfl

/-- A known extension in either case after a stem that is not empty is taken off at the last point,
and any other name stays whole. -/
theorem withoutSubtitleExtension_eq_iff {base : List Char} :
    withoutSubtitleExtension name = base ↔ BaseName name base := by
  constructor
  · rintro rfl
    by_cases h : ∃ stem ext, HasExtension name stem ext
    · obtain ⟨stem, ext, hext⟩ := h
      exact hext.withoutSubtitleExtension_eq.symm ▸ .stem hext
    · have hwhole : ∀ stem ext, ¬HasExtension name stem ext :=
        fun stem ext hext => h ⟨stem, ext, hext⟩
      exact (withoutSubtitleExtension_eq_self hwhole).symm ▸ .whole hwhole
  · rintro (hext | hwhole)
    · exact hext.withoutSubtitleExtension_eq
    · exact withoutSubtitleExtension_eq_self hwhole

end Matcher

/-! ## Tiers -/

/-- The tiers of files, the preferred ones first. -/
inductive Tier
  | named
  | ofQuality
  | any

/-- The tiers that come before a tier. -/
def Tier.before : Tier → List Tier
  | named => []
  | ofQuality => [named]
  | any => [named, ofQuality]

/-- All tiers, in their order. -/
def Tier.all : List Tier := [named, ofQuality, any]

theorem Tier.before_eq {t : Tier} {before after : List Tier} (h : all = before ++ t :: after) :
    t.before = before := by
  rcases before with _ | ⟨a, _ | ⟨b, _ | ⟨c, rest⟩⟩⟩ <;>
    simp only [all, List.nil_append, List.cons_append, List.cons.injEq] at h
  · obtain ⟨rfl, -⟩ := h
    rfl
  · obtain ⟨rfl, rfl, -⟩ := h
    rfl
  · obtain ⟨rfl, rfl, rfl, -⟩ := h
    rfl
  · simp at h

namespace Matcher

/-- Whether a file belongs to a tier: it is named like the medium, separators, case and a known
extension aside; it has the quality of the medium or an unknown one; or it is any file. -/
def Admits (m : Matcher) : Tier → SubtitleFile → Prop
  | .named, file => ∃ name base, m.name = some name ∧ BaseName file.name.toList base ∧
      normalize base = normalize name.toList
  | .ofQuality, file => ∃ q, m.resolution? = some q ∧
      (file.quality = some q ∨ file.quality = none)
  | .any, _ => True

/-- The files of a tier. -/
def tier (m : Matcher) (files : List SubtitleFile) : Tier → List SubtitleFile
  | .named => (m.name.map fun name => files.filter (isNamed name)).getD []
  | .ofQuality => (m.resolution?.map fun q => files.filter (hasQuality q)).getD []
  | .any => files

theorem exists_tier_eq_filter (m : Matcher) (t : Tier) : ∃ p : SubtitleFile → Bool,
    (∀ file, p file = true ↔ m.Admits t file) ∧ ∀ files, m.tier files t = files.filter p := by
  cases t with
  | named =>
    refine ⟨fun file => m.name.any (isNamed · file), fun file => ?_, fun files => ?_⟩
    · cases hname : m.name <;>
        simp [Admits, hname, isNamed, ← withoutSubtitleExtension_eq_iff]
    · cases hname : m.name <;> simp [tier, hname]
  | ofQuality =>
    refine ⟨fun file => m.resolution?.any (hasQuality · file), fun file => ?_, fun files => ?_⟩
    · cases hq : m.resolution? <;> cases hr : file.quality <;> simp [Admits, hq, hr, hasQuality]
    · cases hq : m.resolution? <;> simp [tier, hq]
  | any =>
    refine ⟨fun _ => true, fun _ => iff_of_true rfl trivial, fun files => ?_⟩
    exact (List.filter_eq_self.2 fun _ _ => rfl).symm

theorem tier_eq_nil_iff (m : Matcher) (files : List SubtitleFile) (t : Tier) :
    m.tier files t = [] ↔ ∀ file ∈ files, ¬m.Admits t file := by
  obtain ⟨p, hp, hfilter⟩ := m.exists_tier_eq_filter t
  rw [hfilter, List.filter_eq_nil_iff]
  exact forall₂_congr fun file _ => not_congr (hp file)

theorem findSome?_tiers (m : Matcher) (files : List SubtitleFile) :
    (m.tiers files).findSome? SubtitleFile.best? =
      Tier.all.findSome? fun t => SubtitleFile.best? (m.tier files t) := by
  have hnil : SubtitleFile.best? [] = none := rfl
  cases hname : m.name <;> cases hq : m.resolution? <;>
    simp [tiers, Tier.all, tier, hname, hq, List.findSome?_cons, hnil]

/-! ## What is chosen -/

/-- A file is the best one of a tier, which is the first that has any. -/
structure Suits (m : Matcher) (files : List SubtitleFile) (t : Tier) (file : SubtitleFile) :
    Prop where
  mem : file ∈ files
  admits : m.Admits t file
  first : ∀ earlier ∈ t.before, ∀ other ∈ files, ¬m.Admits earlier other
  not_outranked : ∀ other ∈ files, m.Admits t other → ¬other.Outranks file
  earliest : (∀ other ∈ files, m.Admits t other → other.score ≠ .nan) → ∃ before after,
    files = before ++ file :: after ∧ ∀ other ∈ before, m.Admits t other → file.Outranks other

theorem suits_of_isBest {m : Matcher} {files : List SubtitleFile} {t : Tier} {file : SubtitleFile}
    (h : SubtitleFile.IsBest (m.tier files t) file)
    (hfirst : ∀ earlier ∈ t.before, m.tier files earlier = []) : m.Suits files t file := by
  obtain ⟨p, hp, hfilter⟩ := m.exists_tier_eq_filter t
  rw [hfilter] at h
  obtain ⟨hmem, hadmits⟩ := List.mem_filter.1 h.mem
  refine ⟨hmem, (hp file).1 hadmits, ?_, ?_, fun hnumbers => ?_⟩
  · exact fun earlier hearlier => (m.tier_eq_nil_iff files earlier).1 (hfirst earlier hearlier)
  · intro other hother hin
    exact h.not_outranked other (List.mem_filter.2 ⟨hother, (hp other).2 hin⟩)
  · obtain ⟨before, after, heq, hbefore⟩ := h.earliest fun other hother =>
      hnumbers other (List.mem_filter.1 hother).1 ((hp other).1 (List.mem_filter.1 hother).2)
    obtain ⟨before', rest, rfl, rfl, hrest⟩ := List.filter_eq_append_iff.1 heq
    obtain ⟨skipped, after', rfl, hskipped, -, -⟩ := List.filter_eq_cons_iff.1 hrest
    refine ⟨before' ++ skipped, after', (List.append_assoc _ _ _).symm, fun other hother hin => ?_⟩
    rcases List.mem_append.1 hother with hother | hother
    · exact hbefore other (List.mem_filter.2 ⟨hother, (hp other).2 hin⟩)
    · exact absurd ((hp other).2 hin) (hskipped other hother)

theorem choose_cases (m : Matcher) (track : Track) :
    m.choose track = .error .noFiles ∧ track.files = [] ∨
      ∃ t file, m.choose track = .ok file ∧ m.Suits track.files t file := by
  unfold choose
  rw [findSome?_tiers]
  cases hfound : Tier.all.findSome? fun t => SubtitleFile.best? (m.tier track.files t) with
  | none =>
    have hany := List.findSome?_eq_none_iff.1 hfound .any (by simp [Tier.all])
    exact .inl ⟨rfl, (SubtitleFile.best?_eq_none_iff _).1 hany⟩
  | some file =>
    obtain ⟨before, t, after, hall, hbest, hbefore⟩ := List.findSome?_eq_some_iff.1 hfound
    refine .inr ⟨t, file, rfl, suits_of_isBest (SubtitleFile.isBest_of_best? hbest) ?_⟩
    intro earlier hearlier
    rw [Tier.before_eq hall] at hearlier
    exact (SubtitleFile.best?_eq_none_iff _).1 (hbefore earlier hearlier)

/-- **The best file of the first tier.** A matcher finds no file exactly if the track has none;
otherwise the file that it gives suits best. -/
theorem choose_best (m : Matcher) (track : Track) :
    (m.choose track = .error .noFiles ↔ track.files = []) ∧
      (track.files = [] ∨ ∃ t file, m.choose track = .ok file ∧ m.Suits track.files t file) := by
  rcases m.choose_cases track with ⟨herror, hnil⟩ | ⟨t, file, hok, hsuits⟩
  · exact ⟨iff_of_true herror hnil, .inl hnil⟩
  · have hfiles : track.files ≠ [] := List.ne_nil_of_mem hsuits.mem
    exact ⟨iff_of_false (by simp [hok]) hfiles, .inr ⟨t, file, hok, hsuits⟩⟩

end Matcher

end Subtitler
