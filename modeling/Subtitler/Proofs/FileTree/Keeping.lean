import Mathlib.Logic.Function.Basic
import Subtitler.Proofs.FileTree.Places

/-!
# What a write keeps

A write changes the file at one place (`file?_writeBelow_ok`), or no file if it fails
(`file?_writeBelow_error`). Directories never go away (`keeps_writeBelow`), so every path that could
be followed still can, and reads what it has read as long as the file has its content
(`read_of_keeps`). The path that was written reads what was written (`read_of_writeBelow`).
-/

namespace Subtitler.FileTree

variable {t t' t'' : FileTree} {path : String} {loc : Location} {content : List UInt8}

/-! ## Files -/

/-- The content of the file at a location, if a file stands there. -/
def file? (t : FileTree) (loc : Location) : Option (List UInt8) :=
  match t.entry? loc with
  | some (.file content) => some content
  | _ => none

theorem file?_eq_some_iff : t.file? loc = some content ↔ t.entry? loc = some (.file content) := by
  unfold file?
  split <;> simp_all

theorem Grown.file?_eq (h : t.Grown t') : t'.file? = t.file? := by
  funext loc
  rcases h.entry loc with hsame | ⟨hnone, hmade⟩
  · rw [file?, hsame, file?]
  · rw [file?, hmade, file?, hnone]

theorem file?_put (h : loc ≠ []) :
    (t.put loc (.file content)).file? = Function.update t.file? loc (some content) := by
  funext loc'
  by_cases hloc : loc' = loc
  · subst hloc
    rw [Function.update_self, file?, entry?_put_self _ _ h]
  · rw [Function.update_of_ne hloc, file?, entry?_put_of_ne _ _ hloc, file?]

/-! ## Directories stay -/

/-- Every directory is still one. -/
structure Keeps (t t' : FileTree) : Prop where
  here : t'.here = t.here
  directory : ∀ loc, t.entry? loc = some .directory → t'.entry? loc = some .directory

theorem Keeps.refl (t : FileTree) : t.Keeps t := ⟨rfl, fun _ h => h⟩

theorem Keeps.trans (h : t.Keeps t') (h' : t'.Keeps t'') : t.Keeps t'' :=
  ⟨h'.here.trans h.here, fun loc hloc => h'.directory loc (h.directory loc hloc)⟩

theorem Grown.keeps (h : t.Grown t') : t.Keeps t' where
  here := h.here
  directory := by
    intro loc hloc
    rcases h.entry loc with hsame | ⟨hnone, -⟩
    · rw [hsame, hloc]
    · rw [hnone] at hloc
      cases hloc

theorem keeps_put (h : t.entry? loc ≠ some .directory) (e : Entry) : t.Keeps (t.put loc e) where
  here := rfl
  directory := by
    intro loc' hloc'
    have hne : loc' ≠ loc := by
      rintro rfl
      exact h hloc'
    rw [entry?_put_of_ne _ _ hne, hloc']

theorem step_of_keeps (h : t.Keeps t') {loc' : Location} {name : String}
    (hstep : t.step loc name = .ok loc') : t'.step loc name = .ok loc' := by
  unfold step at hstep ⊢
  split at hstep
  · cases hstep
  · cases hstep
  · rename_i hloc
    rw [h.directory loc hloc]
    exact hstep

theorem foldlM_step_of_keeps (h : t.Keeps t') {names : List String} {loc' : Location}
    (hsteps : names.foldlM t.step loc = .ok loc') : names.foldlM t'.step loc = .ok loc' := by
  induction names generalizing loc with
  | nil => exact hsteps
  | cons name names ih =>
    rw [List.foldlM_cons] at hsteps ⊢
    cases hstep : t.step loc name with
    | error cause =>
      rw [hstep] at hsteps
      cases hsteps
    | ok next =>
      rw [hstep] at hsteps
      rw [step_of_keeps h hstep]
      exact ih hsteps

/-- A path that can be followed leads to the same place as long as no directory goes away. -/
theorem follow_of_keeps (h : t.Keeps t') {spot : Spot} (hspot : t.follow path = .ok spot) :
    t'.follow path = .ok spot := by
  simp only [follow, bind, Except.bind, pure, Except.pure, throw, throwThe,
    MonadExceptOf.throw, h.here] at hspot ⊢
  split at hspot
  · cases hspot
  split at hspot
  · cases hspot
  split at hspot
  · cases hspot
  rename_i hnul hempty hlong
  rw [if_neg hnul, if_neg hempty, if_neg hlong]
  split at hspot
  · cases hspot
  · rename_i location hlocation
    rw [foldlM_step_of_keeps h hlocation]
    exact hspot

/-- What a read depends on: that the path can be followed, does not end in a slash, and leads to
the file. -/
theorem read_eq_ok_iff : t.read path = .ok content ↔
    ∃ spot, t.follow path = .ok spot ∧ spot.slash = false ∧
      t.entry? spot.location = some (.file content) := by
  unfold read lookup
  cases hspot : t.follow path with
  | error cause => simp [bind, Except.bind]
  | ok spot =>
    simp only [bind, Except.bind, Except.ok.injEq, exists_eq_left']
    cases hentry : t.entry? spot.location with
    | none => simp
    | some e =>
      cases e with
      | directory => simp
      | file found =>
        cases hslash : spot.slash <;> simp

/-- A file that can be read stays readable as long as it has its content and no directory goes
away. -/
theorem read_of_keeps (h : t.Keeps t')
    (hfile : ∀ loc content, t.file? loc = some content → t'.file? loc = some content)
    (hread : t.read path = .ok content) : t'.read path = .ok content := by
  obtain ⟨spot, hspot, hslash, hentry⟩ := read_eq_ok_iff.1 hread
  have hentry' := file?_eq_some_iff.1 (hfile _ _ (file?_eq_some_iff.2 hentry))
  exact read_eq_ok_iff.2 ⟨spot, follow_of_keeps h hspot, hslash, hentry'⟩

/-! ## Reading what was written -/

theorem write_eq_ok_iff : t.write path content = .ok t' ↔
    ∃ spot, t.follow path = .ok spot ∧ spot.slash = false ∧
      t.entry? spot.location ≠ some .directory ∧ t' = t.put spot.location (.file content) := by
  unfold write
  cases hspot : t.follow path with
  | error cause => simp [bind, Except.bind]
  | ok spot =>
    simp only [bind, Except.bind, Except.ok.injEq, exists_eq_left']
    cases hentry : t.entry? spot.location with
    | none => cases spot.slash <;> simp [eq_comm]
    | some e =>
      cases e with
      | directory => simp
      | file found => cases hslash : spot.slash <;> simp [eq_comm]

theorem keeps_of_write (h : t.write path content = .ok t') : t.Keeps t' := by
  obtain ⟨spot, -, -, hentry, rfl⟩ := write_eq_ok_iff.1 h
  exact keeps_put hentry _

theorem read_of_write (h : t.write path content = .ok t') : t'.read path = .ok content := by
  obtain ⟨spot, hspot, hslash, hentry, rfl⟩ := write_eq_ok_iff.1 h
  have hroot : spot.location ≠ [] := by
    intro hroot
    rw [hroot, entry?_nil] at hentry
    exact hentry rfl
  exact read_eq_ok_iff.2 ⟨spot, follow_of_keeps (keeps_of_write h) hspot, hslash,
    entry?_put_self _ _ hroot⟩

/-- A write that makes directories first makes these, and then writes. -/
theorem exists_write_of_writeBelow (h : t.writeBelow path content = (t', .ok ())) :
    ∃ made, t.Grown made ∧ made.write path content = .ok t' := by
  unfold writeBelow at h
  cases hparent : Path.parent? path with
  | none =>
    cases hwrite : t.write path content with
    | error cause =>
      simp only [hparent, hwrite] at h
      cases h
    | ok written =>
      simp only [hparent, hwrite] at h
      cases h
      exact ⟨t, .refl t, hwrite⟩
  | some parent =>
    have hgrown := t.grown_makeDirectories parent
    cases hmade : t.makeDirectories parent with
    | mk made result =>
      simp only [hparent, hmade] at h hgrown
      cases result with
      | error cause => cases h
      | ok =>
        cases hwrite : made.write path content with
        | error cause =>
          simp only [hwrite] at h
          cases h
        | ok written =>
          simp only [hwrite] at h
          cases h
          exact ⟨made, hgrown, hwrite⟩

theorem keeps_writeBelow (t : FileTree) (path : String) (content : List UInt8) :
    t.Keeps (t.writeBelow path content).1 := by
  rcases hdone : t.writeBelow path content with ⟨t', result⟩
  cases result with
  | ok =>
    obtain ⟨made, hgrown, hwrite⟩ := exists_write_of_writeBelow hdone
    exact hgrown.keeps.trans (keeps_of_write hwrite)
  | error cause =>
    obtain ⟨made, hgrown, ⟨cause', heq⟩ | ⟨-, heq⟩⟩ := t.writeBelow_cases path content
    · rw [hdone] at heq
      cases heq
      exact hgrown.keeps
    · rw [hdone] at heq
      cases heq

/-- After a write the path leads to a file with the content. -/
theorem read_of_writeBelow (h : (t.writeBelow path content).2 = .ok ()) :
    read (t.writeBelow path content).1 path = .ok content := by
  rcases hdone : t.writeBelow path content with ⟨t', result⟩
  rw [hdone] at h
  cases h
  obtain ⟨made, -, hwrite⟩ := exists_write_of_writeBelow hdone
  exact read_of_write hwrite

theorem file?_writeBelow_ok (h : (t.writeBelow path content).2 = .ok ()) :
    file? (t.writeBelow path content).1 =
      Function.update t.file? (t.place path) (some content) := by
  obtain ⟨made, hgrown, ⟨cause, heq⟩ | ⟨hroot, heq⟩⟩ := t.writeBelow_cases path content
  · rw [heq] at h
    cases h
  · rw [heq, file?_put hroot, hgrown.file?_eq]

theorem file?_writeBelow_error {cause : FileError}
    (h : (t.writeBelow path content).2 = .error cause) :
    file? (t.writeBelow path content).1 = t.file? := by
  obtain ⟨made, hgrown, ⟨cause', heq⟩ | ⟨-, heq⟩⟩ := t.writeBelow_cases path content
  · rw [heq]
    exact hgrown.file?_eq
  · rw [heq] at h
    cases h

/-! ## Whether a write succeeds -/

theorem toUnit_write (t : FileTree) (path : String) (content content' : List UInt8) :
    (t.write path content).map (fun _ => ()) = (t.write path content').map (fun _ => ()) := by
  unfold write
  cases t.follow path with
  | error cause => rfl
  | ok spot =>
    dsimp only [bind, Except.bind]
    cases t.entry? spot.location with
    | none => cases spot.slash <;> rfl
    | some entry =>
      cases entry with
      | file old => cases spot.slash <;> rfl
      | directory => rfl

/-- Whether a write succeeds does not depend on what is written. -/
theorem result_writeBelow (t : FileTree) (path : String) (content content' : List UInt8) :
    (t.writeBelow path content).2 = (t.writeBelow path content').2 := by
  unfold writeBelow
  cases hparent : Path.parent? path with
  | none =>
    have hsame := t.toUnit_write path content content'
    cases hwrite : t.write path content <;> cases hwrite' : t.write path content' <;>
      rw [hwrite, hwrite'] at hsame <;> cases hsame <;> simp only [hwrite, hwrite']
  | some parent =>
    cases hmade : t.makeDirectories parent with
    | mk made result =>
      cases result with
      | error cause => simp only [hmade]
      | ok =>
        have hsame := made.toUnit_write path content content'
        cases hwrite : made.write path content <;> cases hwrite' : made.write path content' <;>
          rw [hwrite, hwrite'] at hsame <;> cases hsame <;> simp only [hmade, hwrite, hwrite']

end Subtitler.FileTree
