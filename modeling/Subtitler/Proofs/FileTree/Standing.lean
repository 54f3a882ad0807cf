import Mathlib.Tactic.SplitIfs
import Subtitler.Proofs.FileTree.Keeping

/-!
# Trees that stand

In a tree that stands, every entry stands in a directory. Writes keep it so (`stands_writeBelow`).
A path without `..` then finds whatever stands at its place (`Stands.entry?_of_exists?`); a path
that goes up again from a directory that is missing does not.
-/

namespace Subtitler

theorem Path.names_ne_nil {path : String} (h : path ≠ "") (hhead : path.toList.head? ≠ some '/') :
    names path ≠ [] := by
  obtain ⟨c, rest, hpath⟩ := List.exists_cons_of_ne_nil (mt String.toList_eq_nil_iff.1 h)
  have hc : (c == '/') = false := by simpa [hpath] using hhead
  obtain ⟨piece, more, hrest⟩ := List.exists_cons_of_ne_nil (Text.splitBy_ne_nil (· == '/') rest)
  simp [names, hpath, Text.splitBy, hc, hrest]

namespace FileTree

variable {t t' : FileTree} {path : String} {loc : Location} {content : List UInt8}

/-- Every entry stands in a directory. -/
def Stands (t : FileTree) : Prop :=
  ∀ loc name, (t.entry? (loc ++ [name])).isSome → t.entry? loc = some .directory

theorem Stands.dropLast (h : t.Stands) (hloc : t.entry? loc = some .directory) :
    t.entry? loc.dropLast = some .directory := by
  rcases List.eq_nil_or_concat loc with rfl | ⟨above, name, rfl⟩
  · exact hloc
  · rw [List.concat_eq_append] at hloc ⊢
    rw [List.dropLast_concat]
    exact h above name (by simp [hloc])

/-- A step leads into a directory. -/
theorem Stands.dropLast_of_step (h : t.Stands) {loc' : Location} {name : String}
    (hstep : t.step loc name = .ok loc') : t.entry? loc'.dropLast = some .directory := by
  unfold step at hstep
  split at hstep
  · cases hstep
  · cases hstep
  rename_i hloc
  split at hstep
  · cases hstep
    exact h.dropLast hloc
  split at hstep
  · cases hstep
    exact h.dropLast (h.dropLast hloc)
  split at hstep
  · cases hstep
  · cases hstep
    simpa using hloc

theorem Stands.dropLast_of_foldlM (h : t.Stands) {names : List String} {loc' : Location}
    (hne : names ≠ []) (hsteps : names.foldlM t.step loc = .ok loc') :
    t.entry? loc'.dropLast = some .directory := by
  induction names generalizing loc with
  | nil => exact absurd rfl hne
  | cons name names ih =>
    rw [List.foldlM_cons] at hsteps
    cases hstep : t.step loc name with
    | error cause =>
      rw [hstep] at hsteps
      cases hsteps
    | ok next =>
      rw [hstep] at hsteps
      cases names with
      | nil =>
        cases hsteps
        exact h.dropLast_of_step hstep
      | cons other names => exact ih (by simp) hsteps

/-- What a path leads to stands in a directory. -/
theorem Stands.dropLast_of_follow (h : t.Stands) {spot : Spot} (hspot : t.follow path = .ok spot) :
    t.entry? spot.location.dropLast = some .directory := by
  simp only [follow, bind, Except.bind, pure, Except.pure, throw, throwThe,
    MonadExceptOf.throw] at hspot
  split at hspot
  · cases hspot
  split at hspot
  · cases hspot
  rename_i hempty
  split at hspot
  · cases hspot
  split at hspot
  · cases hspot
  rename_i location hlocation
  cases hspot
  by_cases hne : Path.names path = []
  · -- only a path of slashes has no names, and it leads to the root
    have hroot : path.toList.head? = some '/' := by
      by_contra hhead
      exact Path.names_ne_nil (by simpa using hempty) hhead hne
    rw [show List.filter _ _ = [] from hne, if_pos hroot] at hlocation
    cases hlocation
    rfl
  · exact h.dropLast_of_foldlM hne hlocation

theorem stands_put (h : t.Stands) {e : Entry} (hloc : t.entry? loc.dropLast = some .directory)
    (hentry : t.entry? loc ≠ some .directory) : Stands (t.put loc e) := by
  have hroot : loc ≠ [] := by
    rintro rfl
    exact hentry rfl
  have hkeeps := keeps_put hentry e
  intro above name hsome
  by_cases hthis : above ++ [name] = loc
  · rw [← hthis, List.dropLast_concat] at hloc
    exact hkeeps.directory _ hloc
  · rw [entry?_put_of_ne _ _ hthis] at hsome
    exact hkeeps.directory _ (h above name hsome)

theorem stands_makeDirectory (h : t.Stands) (hmade : t.makeDirectory path = .ok t') :
    t'.Stands := by
  simp only [makeDirectory, bind, Except.bind] at hmade
  split at hmade
  · cases hmade
  rename_i spot hspot
  split at hmade
  · cases hmade
  · rename_i hnone
    cases hmade
    exact stands_put h (h.dropLast_of_follow hspot) (by simp [hnone])

theorem stands_makeDirectoriesBelow (fuel : Nat) (t : FileTree) (path : String) (h : t.Stands) :
    Stands (makeDirectoriesBelow fuel t path).1 := by
  fun_induction makeDirectoriesBelow fuel t path with
  | case1 | case6 | case7 => exact h
  | case2 _ t _ _ made hmade => exact stands_makeDirectory h hmade
  | case3 t path _ _ fuel parent _ above cause habove ih
  | case5 t path _ _ fuel parent _ above habove cause _ ih =>
    simpa [habove] using ih h
  | case4 t path _ _ fuel parent _ above habove made hmade ih =>
    rw [habove] at ih
    exact stands_makeDirectory (ih h) hmade

theorem stands_write (h : t.Stands) (hwrite : t.write path content = .ok t') : t'.Stands := by
  obtain ⟨spot, hspot, -, hentry, rfl⟩ := write_eq_ok_iff.1 hwrite
  exact stands_put h (h.dropLast_of_follow hspot) hentry

theorem stands_writeBelow (h : t.Stands) (path : String) (content : List UInt8) :
    Stands (t.writeBelow path content).1 := by
  unfold writeBelow
  cases hparent : Path.parent? path with
  | none =>
    cases hwrite : t.write path content with
    | error cause => simpa only [hwrite] using h
    | ok written => simpa only [hwrite] using stands_write h hwrite
  | some parent =>
    have habove : Stands (t.makeDirectories parent).1 := stands_makeDirectoriesBelow _ t parent h
    rcases hmade : t.makeDirectories parent with ⟨made, cause | _⟩
    · simpa only [hmade] using habove
    · rw [hmade] at habove
      cases hwrite : made.write path content with
      | error cause => simpa only [hmade, hwrite] using habove
      | ok written => simpa only [hmade, hwrite] using stands_write habove hwrite

/-- Below nothing there is nothing, as long as no name leads back up. -/
theorem Stands.foldl_onward (h : t.Stands) {names : List String} (hdots : ".." ∉ names)
    (hnone : t.entry? loc = none) : t.entry? (names.foldl onward loc) = none := by
  induction names generalizing loc with
  | nil => exact hnone
  | cons name names ih =>
    rw [List.mem_cons, not_or] at hdots
    apply ih hdots.2
    unfold onward
    split
    · exact hnone
    rw [if_neg (Ne.symm hdots.1)]
    by_contra hsome
    rw [h loc name (Option.isSome_iff_ne_none.2 hsome)] at hnone
    cases hnone

theorem Stands.foldlM_step (h : t.Stands) {names : List String} (hdots : ".." ∉ names)
    (hsteps : names.foldlM t.step loc = .error .notFound) :
    t.entry? (names.foldl onward loc) = none := by
  induction names generalizing loc with
  | nil => cases hsteps
  | cons name names ih =>
    rw [List.foldlM_cons] at hsteps
    cases hstep : t.step loc name with
    | error cause =>
      rw [hstep] at hsteps
      cases hsteps
      -- only a step from nowhere fails in this way
      have hnone : t.entry? loc = none := by
        unfold step at hstep
        split at hstep
        · assumption
        · cases hstep
        · split_ifs at hstep
          cases hstep
      exact h.foldl_onward hdots hnone
    | ok next =>
      rw [hstep] at hsteps
      rw [List.foldl_cons, ← step_eq_ok hstep]
      exact ih (List.not_mem_of_not_mem_cons hdots) hsteps

/-- In a tree that stands, a path without dots finds what stands at its place. -/
theorem Stands.entry?_of_exists? (h : t.Stands) (hpath : path ≠ "")
    (hdots : ".." ∉ Path.names path) (hexists : t.exists? path = .ok false) :
    t.entry? (t.place path) = none := by
  have hlookup : t.lookup path = .error .notFound := by
    unfold exists? at hexists
    split at hexists
    · cases hexists
    · assumption
    · cases hexists
  cases hspot : t.follow path with
  | ok spot =>
    simp only [lookup, hspot, bind, Except.bind] at hlookup
    rw [← location_of_follow hspot]
    split at hlookup
    · assumption
    · split at hlookup <;> cases hlookup
    · cases hlookup
  | error cause =>
    simp only [lookup, hspot, bind, Except.bind, Except.error.injEq] at hlookup
    subst hlookup
    simp only [follow, bind, Except.bind, pure, Except.pure, throw, throwThe,
      MonadExceptOf.throw] at hspot
    split at hspot
    · cases hspot
    split at hspot
    · simp_all
    split at hspot
    · cases hspot
    split at hspot
    · rename_i hsteps
      cases hspot
      exact h.foldlM_step hdots hsteps
    · cases hspot

end FileTree

end Subtitler
