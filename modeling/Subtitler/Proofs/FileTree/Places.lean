import Mathlib.Data.List.TakeWhile
import Subtitler.FileTree.Basic

/-!
# Places in a tree of files

The place of a path is the location that its names spell out, whatever stands on the way
(`FileTree.place`). A path that can be followed leads to its place (`location_of_follow`), so
reading gives the file at the place of the path (`entry?_of_read`), and a write changes nothing but
that place, apart from directories that are made where nothing was (`writeBelow_cases`).
-/

namespace Subtitler

/-! ## Names of a path -/

namespace Text

variable {p : Char → Bool} {c : Char}

theorem splitBy_ne_nil (p : Char → Bool) (cs : List Char) : splitBy p cs ≠ [] := by
  induction cs with
  | nil => simp [splitBy]
  | cons c rest ih =>
    rw [splitBy]
    split
    · simp
    · split <;> simp

theorem splitBy_of_forall_not {cs : List Char} (h : ∀ c ∈ cs, p c = false) :
    splitBy p cs = [cs] := by
  induction cs with
  | nil => rfl
  | cons c rest ih =>
    have hc : p c = false := h c List.mem_cons_self
    rw [splitBy, ih fun d hd => h d (List.mem_cons_of_mem c hd)]
    simp [hc]

theorem splitBy_append_cons (xs ys : List Char) (hc : p c = true) :
    splitBy p (xs ++ c :: ys) = splitBy p xs ++ splitBy p ys := by
  induction xs with
  | nil => simp [splitBy, hc]
  | cons x xs ih =>
    rw [List.cons_append, splitBy, splitBy, ih]
    by_cases hx : p x = true
    · simp [hx]
    · obtain ⟨piece, more, hxs⟩ := List.exists_cons_of_ne_nil (splitBy_ne_nil p xs)
      simp [hx, hxs]

end Text

namespace Path

/-- The names on a path, dots among them. -/
def names (path : String) : List String :=
  (Text.splitBy (· == '/') path.toList).map String.ofList |>.filter (· != "")

theorem names_append_slash (start rest : String) :
    names (start ++ "/" ++ rest) = names start ++ names rest := by
  have hpieces : Text.splitBy (· == '/') (start ++ "/" ++ rest).toList =
      Text.splitBy (· == '/') start.toList ++ Text.splitBy (· == '/') rest.toList := by
    rw [String.toList_append, String.toList_append, List.append_assoc]
    exact Text.splitBy_append_cons _ _ (by decide)
  rw [names, hpieces, List.map_append, List.filter_append, names, names]

theorem names_empty : names "" = [] := by decide

theorem names_slash (start : String) : names (start ++ "/") = names start := by
  simpa [names_empty] using names_append_slash start ""

theorem names_of_not_mem {name : String} (h : '/' ∉ name.toList) (hne : name ≠ "") :
    names name = [name] := by
  have hpiece : Text.splitBy (· == '/') name.toList = [name.toList] := by
    apply Text.splitBy_of_forall_not
    intro c hc
    have : c ≠ '/' := fun he => h (he ▸ hc)
    simpa using this
  simp [names, hpiece, hne]

/-- The part of a path before its last name, with the slash that ends it. -/
def folder (path : String) : String :=
  String.ofList (path.toList.reverse.dropWhile (· != '/')).reverse

/-- The last name on a path; it is empty if the path ends in a slash. -/
def lastName (path : String) : String :=
  String.ofList (Text.afterLast (· == '/') path.toList)

theorem folder_append_lastName (path : String) : folder path ++ lastName path = path := by
  apply String.toList_inj.1
  simp only [folder, lastName, Text.afterLast, String.toList_append, String.toList_ofList]
  rw [← List.reverse_append, List.reverse_eq_iff]
  exact List.takeWhile_append_dropWhile

theorem not_mem_lastName (path : String) : '/' ∉ (lastName path).toList := by
  intro h
  simp only [lastName, Text.afterLast, String.toList_ofList, List.mem_reverse] at h
  simpa using List.mem_takeWhile_imp h

/-- What stands before the last name is empty or ends in a slash. -/
theorem folder_cases (path : String) : folder path = "" ∨ ∃ start, folder path = start ++ "/" := by
  cases hrest : path.toList.reverse.dropWhile (· != '/') with
  | nil => exact .inl (by simp [folder, hrest])
  | cons c more =>
    have hc : (c != '/') = false := by
      have hend := List.head?_dropWhile_not (· != '/') path.toList.reverse
      rwa [hrest] at hend
    obtain rfl : c = '/' := by simpa using hc
    refine .inr ⟨String.ofList more.reverse, ?_⟩
    apply String.toList_inj.1
    simp [folder, hrest]

theorem folder_of_not_mem {path : String} (h : '/' ∉ path.toList) : folder path = "" := by
  rcases folder_cases path with hempty | ⟨start, hstart⟩
  · exact hempty
  · have hwhole := folder_append_lastName path
    rw [hstart] at hwhole
    rw [← hwhole] at h
    simp at h

theorem lastName_of_not_mem {path : String} (h : '/' ∉ path.toList) : lastName path = path := by
  have hwhole := folder_append_lastName path
  rwa [folder_of_not_mem h, String.empty_append] at hwhole

end Path

/-! ## Places -/

namespace FileTree

variable {t t' t'' : FileTree} {path : String} {loc : Location}

/-- Where a name leads from a location. -/
def onward (loc : Location) (name : String) : Location :=
  if name = "." then loc else if name = ".." then loc.dropLast else loc ++ [name]

/-- The location that a path spells out. -/
def place (t : FileTree) (path : String) : Location :=
  (Path.names path).foldl onward (if path.toList.head? = some '/' then [] else t.here)

theorem place_congr (h : t'.here = t.here) (path : String) : t'.place path = t.place path := by
  rw [place, place, h]

theorem place_append_slash (start rest : String) :
    t.place (start ++ "/" ++ rest) = (Path.names rest).foldl onward (t.place (start ++ "/")) := by
  have hhead : (start ++ "/" ++ rest).toList.head? = (start ++ "/").toList.head? := by
    simp [List.head?_append]
  rw [place, place, Path.names_append_slash, Path.names_slash, List.foldl_append, hhead]

theorem place_slash {start : String} (h : start ≠ "") : t.place (start ++ "/") = t.place start := by
  obtain ⟨c, more, hstart⟩ := List.exists_cons_of_ne_nil (mt String.toList_eq_nil_iff.1 h)
  rw [place, place, Path.names_slash]
  simp [hstart]

/-- A path below a directory leads on from the directory. -/
theorem place_join (directory : String) (h : path.toList.head? ≠ some '/') :
    t.place (Path.join directory path) = (Path.names path).foldl onward (t.place directory) := by
  rw [Path.join, if_neg h]
  by_cases hempty : directory = ""
  · subst hempty
    simp [place, h, Path.names_empty]
  have hnone : directory.isEmpty = false := by simpa using hempty
  by_cases hslash : directory.toList.getLast? = some '/'
  · obtain ⟨start, hstart⟩ := List.getLast?_eq_some_iff.1 hslash
    obtain rfl : directory = String.ofList start ++ "/" := by
      apply String.toList_inj.1
      simp [hstart]
    rw [if_pos (by simp)]
    exact place_append_slash (String.ofList start) path
  · rw [if_neg (by simp [hnone, hslash]), place_append_slash, place_slash hempty]

/-- The same with a text that is split after a slash, be it a path from the root or not. -/
theorem place_join_append (directory : String) {folder rest : String}
    (hfolder : folder = "" ∨ ∃ start, folder = start ++ "/")
    (hrest : rest.toList.head? ≠ some '/') :
    t.place (Path.join directory (folder ++ rest)) =
      (Path.names rest).foldl onward (t.place (Path.join directory folder)) := by
  obtain rfl | ⟨start, rfl⟩ := hfolder
  · rw [String.empty_append, place_join directory hrest, place_join directory (by simp),
      Path.names_empty, List.foldl_nil]
  have hhead : (start ++ "/" ++ rest).toList.head? = (start ++ "/").toList.head? := by
    simp [List.head?_append]
  by_cases hroot : (start ++ "/").toList.head? = some '/'
  · rw [Path.join, if_pos (hhead.trans hroot), Path.join, if_pos hroot, place_append_slash]
  · rw [place_join directory hroot, place_join directory (hhead ▸ hroot),
      Path.names_append_slash, Path.names_slash, List.foldl_append]

/-! ## Following a path -/

theorem step_eq_ok {loc' : Location} {name : String} (h : t.step loc name = .ok loc') :
    loc' = onward loc name := by
  unfold step at h
  split at h
  · cases h
  · cases h
  unfold onward
  split at h
  · simp_all
  split at h
  · simp_all
  split at h
  · cases h
  · simp_all

theorem foldlM_step {names : List String} {loc' : Location}
    (h : names.foldlM t.step loc = .ok loc') : loc' = names.foldl onward loc := by
  induction names generalizing loc with
  | nil => cases h; rfl
  | cons name names ih =>
    rw [List.foldlM_cons] at h
    cases hstep : t.step loc name with
    | error cause => rw [hstep] at h; cases h
    | ok next =>
      rw [hstep] at h
      rw [ih h, List.foldl_cons, step_eq_ok hstep]

/-- A path that can be followed leads to its place. -/
theorem location_of_follow {spot : Spot} (h : t.follow path = .ok spot) :
    spot.location = t.place path := by
  simp only [follow, bind, Except.bind, pure, Except.pure, throw, throwThe,
    MonadExceptOf.throw] at h
  split at h
  · cases h
  split at h
  · cases h
  split at h
  · cases h
  split at h
  · cases h
  · rename_i location hlocation
    cases h
    exact foldlM_step hlocation

/-! ## Changes -/

theorem entry?_nil (t : FileTree) : t.entry? [] = some .directory := rfl

theorem entry?_put_self (t : FileTree) (e : Entry) (h : loc ≠ []) :
    entry? (t.put loc e) loc = some e := by
  have hothers : (t.entries.filter (·.1 != loc)).find? (·.1 == loc) = none := by simp
  simp [put, entry?, h, List.find?_append, hothers]

theorem entry?_put_of_ne (t : FileTree) {loc' : Location} (e : Entry) (h : loc' ≠ loc) :
    entry? (t.put loc e) loc' = t.entry? loc' := by
  have hothers : (t.entries.filter (·.1 != loc)).find? (·.1 == loc') =
      t.entries.find? (·.1 == loc') := by
    rw [List.find?_filter]
    congr 1
    funext place
    by_cases hplace : place.1 = loc'
    · simp [hplace, h]
    · simp [hplace]
  have hthis : (loc == loc') = false := by simpa using h.symm
  simp [put, entry?, List.find?_append, hothers, hthis]

/-- A tree that has grown: directories were made where nothing was. -/
structure Grown (t t' : FileTree) : Prop where
  here : t'.here = t.here
  entry : ∀ loc, t'.entry? loc = t.entry? loc ∨
    t.entry? loc = none ∧ t'.entry? loc = some .directory

theorem Grown.refl (t : FileTree) : t.Grown t := ⟨rfl, fun _ => .inl rfl⟩

theorem Grown.trans (h : t.Grown t') (h' : t'.Grown t'') : t.Grown t'' where
  here := h'.here.trans h.here
  entry := by
    intro loc
    rcases h'.entry loc with hsame | ⟨hnone, hmade⟩
    · rw [hsame]
      exact h.entry loc
    · rcases h.entry loc with hbefore | ⟨-, hbefore⟩
      · exact .inr ⟨hbefore ▸ hnone, hmade⟩
      · rw [hnone] at hbefore
        cases hbefore

/-- Growing makes no files. -/
theorem Grown.file (h : t.Grown t') {content : List UInt8}
    (hfile : t'.entry? loc = some (.file content)) : t.entry? loc = some (.file content) := by
  rcases h.entry loc with hsame | ⟨-, hmade⟩
  · exact hsame ▸ hfile
  · rw [hmade] at hfile
    cases hfile

theorem grown_put_directory (h : t.entry? loc = none) : t.Grown (t.put loc .directory) where
  here := rfl
  entry := by
    intro loc'
    have hroot : loc ≠ [] := by
      rintro rfl
      cases h
    by_cases hloc : loc' = loc
    · subst hloc
      exact .inr ⟨h, t.entry?_put_self .directory hroot⟩
    · exact .inl (t.entry?_put_of_ne .directory hloc)

theorem grown_of_makeDirectory (h : t.makeDirectory path = .ok t') : t.Grown t' := by
  simp only [makeDirectory, bind, Except.bind] at h
  split at h
  · cases h
  split at h
  · cases h
  · rename_i hnone
    cases h
    exact grown_put_directory hnone

theorem grown_makeDirectoriesBelow (fuel : Nat) (t : FileTree) (path : String) :
    t.Grown (makeDirectoriesBelow fuel t path).1 := by
  fun_induction makeDirectoriesBelow fuel t path with
  | case1 | case6 | case7 => exact .refl _
  | case2 _ t _ _ made hmade => exact grown_of_makeDirectory hmade
  | case3 t path _ _ fuel parent _ above cause habove ih
  | case5 t path _ _ fuel parent _ above habove cause _ ih =>
    -- the last directory is not made, but those above it may have been
    rwa [habove] at ih
  | case4 t path _ _ fuel parent _ above habove made hmade ih =>
    rw [habove] at ih
    exact ih.trans (grown_of_makeDirectory hmade)

theorem grown_makeDirectories (t : FileTree) (path : String) :
    t.Grown (t.makeDirectories path).1 := grown_makeDirectoriesBelow _ t path

theorem write_eq_ok {content : List UInt8} (h : t.write path content = .ok t') :
    t.place path ≠ [] ∧ t' = t.put (t.place path) (.file content) := by
  simp only [write, bind, Except.bind] at h
  split at h
  · cases h
  rename_i spot hspot
  rw [location_of_follow hspot] at h
  refine ⟨?_, ?_⟩
  · intro hroot
    rw [hroot, entry?_nil] at h
    cases h
  · split at h
    · cases h
    all_goals
      split at h
      · cases h
      · cases h; rfl

/-- What is left of a write that makes the directories above its file: some of these, and the file
if all went well. -/
theorem writeBelow_cases (t : FileTree) (path : String) (content : List UInt8) :
    ∃ made, t.Grown made ∧
      ((∃ cause, t.writeBelow path content = (made, .error cause)) ∨
        t.place path ≠ [] ∧
          t.writeBelow path content = (made.put (t.place path) (.file content), .ok ())) := by
  have hlast {made : FileTree} (hgrown : t.Grown made) :
      (∃ cause, made.write path content = .error cause) ∨ t.place path ≠ [] ∧
        made.write path content = .ok (made.put (t.place path) (.file content)) := by
    cases hwrite : made.write path content with
    | error cause => exact .inl ⟨cause, rfl⟩
    | ok written =>
      obtain ⟨hroot, rfl⟩ := write_eq_ok hwrite
      rw [place_congr hgrown.here] at hroot ⊢
      exact .inr ⟨hroot, rfl⟩
  cases hparent : Path.parent? path with
  | none =>
    refine ⟨t, .refl t, ?_⟩
    rcases hlast (.refl t) with ⟨cause, hwrite⟩ | ⟨hroot, hwrite⟩
    · exact .inl ⟨cause, by simp only [writeBelow, hparent, hwrite]⟩
    · exact .inr ⟨hroot, by simp only [writeBelow, hparent, hwrite]⟩
  | some parent =>
    have hgrown := t.grown_makeDirectories parent
    cases hmade : t.makeDirectories parent with
    | mk made result =>
      rw [hmade] at hgrown
      refine ⟨made, hgrown, ?_⟩
      cases result with
      | error cause => exact .inl ⟨cause, by simp only [writeBelow, hparent, hmade]⟩
      | ok =>
        rcases hlast hgrown with ⟨cause, hwrite⟩ | ⟨hroot, hwrite⟩
        · exact .inl ⟨cause, by simp only [writeBelow, hparent, hmade, hwrite]⟩
        · exact .inr ⟨hroot, by simp only [writeBelow, hparent, hmade, hwrite]⟩

theorem here_writeBelow (t : FileTree) (path : String) (content : List UInt8) :
    (t.writeBelow path content).1.here = t.here := by
  obtain ⟨made, hgrown, ⟨cause, heq⟩ | ⟨-, heq⟩⟩ := t.writeBelow_cases path content
  · rw [heq]
    exact hgrown.here
  · rw [heq]
    exact hgrown.here

/-- Every file after a write was there before, or is the one that was to be written. -/
theorem file_of_writeBelow {path : String} {content other : List UInt8}
    (h : entry? (t.writeBelow path content).1 loc = some (.file other)) :
    t.entry? loc = some (.file other) ∨ loc = t.place path ∧ other = content := by
  obtain ⟨made, hgrown, ⟨cause, heq⟩ | ⟨hroot, heq⟩⟩ := t.writeBelow_cases path content
  · rw [heq] at h
    exact .inl (hgrown.file h)
  · rw [heq] at h
    by_cases hloc : loc = t.place path
    · subst hloc
      rw [entry?_put_self _ _ hroot] at h
      cases h
      exact .inr ⟨rfl, rfl⟩
    · rw [entry?_put_of_ne _ _ hloc] at h
      exact .inl (hgrown.file h)

/-! ## Reading -/

/-- What a read gives is the content of the file at the place of the path. -/
theorem entry?_of_read {content : List UInt8} (h : t.read path = .ok content) :
    t.entry? (t.place path) = some (.file content) := by
  unfold read at h
  split at h
  · rename_i found hlookup
    cases h
    simp only [lookup, bind, Except.bind] at hlookup
    split at hlookup
    · cases hlookup
    rename_i spot hspot
    rw [location_of_follow hspot] at hlookup
    split at hlookup
    · cases hlookup
    · rename_i hentry
      split at hlookup
      · cases hlookup
      · cases hlookup
        exact hentry
    · cases hlookup
  · cases h
  · cases h

theorem exists?_of_read {content : List UInt8} (h : t.read path = .ok content) :
    t.exists? path = .ok true := by
  unfold read at h
  split at h
  · rename_i hlookup
    rw [exists?, hlookup]
  · cases h
  · cases h

end FileTree

end Subtitler
