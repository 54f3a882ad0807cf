import Subtitler.Proofs.Toml.Values

/-!
# Documents read back

A document of sections is written line by line: each section with its header and with a line for
each of its fields, and with blank lines anywhere between (`Writes`).

**Theorem (`parse?_of_writes`).** If the sections have different names, and the fields of each of
them too, the document is read as the table of its sections.
-/

namespace Subtitler.Toml

variable {name : String} {rest : List Char}

/-! ## Names -/

/-- A name that needs no quotes. -/
def IsBareName (name : String) : Prop :=
  name.toList ≠ [] ∧ name.toList.all isBare = true

instance (name : String) : Decidable (IsBareName name) := inferInstanceAs (Decidable (_ ∧ _))

theorem IsBareName.exists_cons (hname : IsBareName name) :
    ∃ c cs, name.toList = c :: cs ∧ isBare c = true := by
  obtain ⟨hne, hbare⟩ := hname
  obtain ⟨c, cs, hcs⟩ := List.exists_cons_of_ne_nil hne
  rw [hcs, List.all_cons, Bool.and_eq_true] at hbare
  exact ⟨c, cs, hcs, hbare.1⟩

theorem isSpace_of_isBare {c : Char} (h : isBare c = true) : isSpace c = false :=
  isSpace_of_kind h (by decide) (by decide)

theorem name?_append (hname : IsBareName name) (hrest : ∀ c ∈ rest.head?, isBare c = false) :
    name? (name.toList ++ rest) = some (name.toList, rest) := by
  have hbare := List.all_eq_true.1 hname.2
  have htake := Text.takeWhile_run hbare hrest
  have hdrop := Text.dropWhile_run hbare hrest
  obtain ⟨c, cs, hcs, hc⟩ := hname.exists_cons
  rw [hcs] at htake hdrop ⊢
  rw [name?, htake, hdrop]
  · rfl
  all_goals
    intro more heq
    obtain ⟨rfl, -⟩ := List.cons_eq_cons.1 heq
    cases hc

/-- A key of one name, with no point after it. -/
theorem key?_append (hname : IsBareName name) (hrest : ∀ c ∈ rest.head?, isBare c = false)
    (hpoint : (skipSpace rest).head? ≠ some '.') :
    key? (name.toList ++ rest) = some (([], name), skipSpace rest) := by
  have hread := name?_append hname hrest
  have hspace : skipSpace (name.toList ++ rest) = name.toList ++ rest := by
    obtain ⟨c, cs, hcs, hc⟩ := hname.exists_cons
    simp [hcs, skipSpace, isSpace_of_isBare hc]
  have hnames : names? ((name.toList ++ rest).length + 1) (name.toList ++ rest) =
      some ([name], skipSpace rest) := by
    rw [names?, hspace, hread]
    simp only [bind, Option.bind, String.ofList_toList]
    split
    · rename_i heq
      rw [heq] at hpoint
      exact absurd rfl hpoint
    · rfl
  rw [key?, hnames]
  rfl

/-! ## Lines -/

/-- A character that a line starts with: that of a header or of a name. -/
def startsLine (c : Char) : Bool := c == '[' || isBare c

/-- A line that is taken as a statement, with whatever comes after it. -/
structure IsLine (statement : Statement) (line : List Char) : Prop where
  start : ∃ c more, line = c :: more ∧ startsLine c = true
  taken : ∀ rest, statement? (line ++ rest) = some (statement, rest)

theorem isLine_header (hname : IsBareName name) :
    IsLine (.header [] name) ('[' :: name.toList ++ [']', '\n']) where
  start := ⟨'[', _, rfl, rfl⟩
  taken rest := by
    have hkey := @key?_append name (']' :: '\n' :: rest) hname
      (fun c hc => by obtain rfl := Option.mem_some.1 hc; rfl) (by simp [skipSpace, isSpace])
    have hclose : skipSpace (']' :: '\n' :: rest) = ']' :: '\n' :: rest := rfl
    have hend : lineEnd? ('\n' :: rest) = some rest := rfl
    obtain ⟨c, cs, hcs, hc⟩ := hname.exists_cons
    have hne : c ≠ '[' := Text.ne_of_kind hc (by decide)
    rw [hclose] at hkey
    simp only [List.cons_append, List.append_assoc, List.nil_append]
    rw [statement?, hkey]
    · simp [hend]
    · intro more heq
      rw [hcs] at heq
      exact hne (List.cons_eq_cons.1 heq).1

theorem isLine_field {text : List Char} {v : Toml} (hname : IsBareName name) (hv : Reads text v) :
    IsLine (.field ⟨[], name, v⟩) (name.toList ++ [' ', '=', ' '] ++ text ++ ['\n']) where
  start := by
    obtain ⟨c, cs, hcs, hc⟩ := hname.exists_cons
    exact ⟨c, _, by rw [hcs]; rfl, by rw [startsLine, hc, Bool.or_true]⟩
  taken rest := by
    have hkey := @key?_append name (' ' :: '=' :: ' ' :: (text ++ '\n' :: rest)) hname
      (fun c hc => by obtain rfl := Option.mem_some.1 hc; rfl) (by simp [skipSpace, isSpace])
    have hequals : skipSpace (' ' :: '=' :: ' ' :: (text ++ '\n' :: rest)) =
        '=' :: ' ' :: (text ++ '\n' :: rest) := rfl
    have hstart : skipSpace (' ' :: (text ++ '\n' :: rest)) = text ++ '\n' :: rest :=
      hv.start ('\n' :: rest)
    have hend : lineEnd? ('\n' :: rest) = some rest := rfl
    obtain ⟨c, cs, hcs, hc⟩ := hname.exists_cons
    have hne : c ≠ '[' := Text.ne_of_kind hc (by decide)
    rw [hequals] at hkey
    simp only [List.cons_append, List.append_assoc, List.nil_append]
    rw [statement?, hkey]
    · simp only [bind, Option.bind, hstart, hv.taken, hend]
    all_goals
      intro more heq
      rw [hcs] at heq
      exact hne (List.cons_eq_cons.1 heq).1

/-! ## Texts -/

/-- A text that writes statements, one to a line, with blank lines anywhere between. -/
inductive Writes : List Statement → List Char → Prop
  | nil : Writes [] []
  | blank {statements : List Statement} {text : List Char} (h : Writes statements text) :
      Writes statements ('\n' :: text)
  | line {statement : Statement} {line : List Char} {statements : List Statement}
      {text : List Char} (hline : IsLine statement line) (h : Writes statements text) :
      Writes (statement :: statements) (line ++ text)

variable {statements : List Statement} {text : List Char}

/-- A line starts with nothing that is skipped. -/
theorem skipWhite_of_start {c : Char} (hc : startsLine c = true) (more : List Char) :
    skipWhite (c :: more) = c :: more := by
  have hspace : isSpace c = false := isSpace_of_kind hc (by decide) (by decide)
  rw [skipWhite, hspace]
  · rfl
  · exact Text.ne_of_kind hc (by decide)
  · intro _ heq
    exact absurd heq (Text.ne_of_kind hc (by decide))

theorem Writes.head?_skipWhite (h : Writes statements text) :
    (skipWhite text).head? ≠ some '#' := by
  induction h with
  | nil => nofun
  | blank h ih => exact ih
  | @line statement line statements text hline h ih =>
    obtain ⟨c, more, rfl, hc⟩ := hline.start
    rw [List.cons_append, skipWhite_of_start hc, List.head?_cons]
    exact fun heq => Text.ne_of_kind hc (by decide) (Option.some.inj heq)

/-- Between the lines there are no comments. -/
theorem Writes.skipAll_eq (h : Writes statements text) : skipAll text = skipWhite text := by
  have hcomment := h.head?_skipWhite
  rw [skipAll, skipLines]
  split
  · rename_i heq
    rw [heq] at hcomment
    exact absurd rfl hcomment
  · rfl

theorem Writes.withoutMark_eq (h : Writes statements text) : withoutMark text = text := by
  cases h with
  | nil => rfl
  | blank h => rfl
  | line hline h =>
    obtain ⟨c, more, rfl, hc⟩ := hline.start
    have hmark : c.toNat ≠ 0xFEFF := by
      intro hcode
      have heq : c = Char.ofNat 0xFEFF := hcode ▸ (Char.ofNat_toNat c).symm
      exact Text.ne_of_kind hc (by decide) heq
    rw [List.cons_append, withoutMark, if_neg hmark]

theorem Writes.statements?_eq (h : Writes statements text) {fuel : Nat}
    (hfuel : text.length < fuel) : statements? fuel text = some statements := by
  induction h generalizing fuel with
  | nil =>
    obtain ⟨fuel, rfl⟩ := Nat.exists_eq_add_of_lt hfuel
    rfl
  | @blank statements text h ih =>
    obtain ⟨fuel, rfl⟩ : ∃ n, fuel = n + 1 := Nat.exists_eq_succ_of_ne_zero (by omega)
    have hmore := @ih (fuel + 1) (by rw [List.length_cons] at hfuel; omega)
    have hskip : skipAll ('\n' :: text) = skipAll text := by
      rw [(Writes.blank h).skipAll_eq, h.skipAll_eq, skipWhite]
    rw [statements?] at hmore ⊢
    rwa [hskip]
  | @line statement line statements text hline h ih =>
    obtain ⟨fuel, rfl⟩ : ∃ n, fuel = n + 1 := Nat.exists_eq_succ_of_ne_zero (by omega)
    have hskip := (Writes.line hline h).skipAll_eq
    have htaken := hline.taken text
    obtain ⟨c, more, rfl, hc⟩ := hline.start
    have hmore := @ih fuel (by simp at hfuel; omega)
    rw [List.cons_append] at hskip htaken ⊢
    rw [skipWhite_of_start hc] at hskip
    rw [statements?, hskip]
    simp [htaken, hmore]

/-! ## Tables -/

/-- A section: its name and its fields. -/
abbrev Section := String × List (String × Toml)

/-- The statements that make up a section. -/
def sectionStatements (s : Section) : List Statement :=
  .header [] s.1 :: s.2.map fun field => .field ⟨[], field.1, field.2⟩

/-- What a section has become when its statements are taken in. -/
def sectionNode (s : Section) : String × Node :=
  (s.1, .table .stated (s.2.map fun field => (field.1, .value field.2)))

variable {fields : Fields} {f : Option Node → Option Node}

theorem update_of_not_mem (h : name ∉ fields.map (·.1)) :
    update name f fields = (f none).map fun node => fields ++ [(name, node)] := by
  induction fields with
  | nil => rfl
  | cons field fields ih =>
    obtain ⟨other, node⟩ := field
    rw [List.map_cons, List.mem_cons, not_or] at h
    rw [update, if_neg (Ne.symm h.1), ih h.2, Option.map_map]
    rfl

theorem update_append (h : name ∉ fields.map (·.1)) (node : Node) :
    update name f (fields ++ [(name, node)]) =
      (f (some node)).map fun node => fields ++ [(name, node)] := by
  induction fields with
  | nil => simp [update]
  | cons field fields ih =>
    obtain ⟨other, node⟩ := field
    rw [List.map_cons, List.mem_cons, not_or] at h
    rw [List.cons_append, update, if_neg (Ne.symm h.1), ih h.2, Option.map_map]
    rfl

theorem add_header {p : Progress} (h : name ∉ p.fields.map (·.1)) :
    p.add (.header [] name) = some ⟨[name], p.fields ++ [(name, .table .stated [])]⟩ := by
  rw [Progress.add, descend, update_of_not_mem h]
  rfl

theorem add_field {inner : Fields} {field : String} (h : name ∉ fields.map (·.1))
    (hfield : field ∉ inner.map (·.1)) (v : Toml) :
    Progress.add ⟨[name], fields ++ [(name, .table .stated inner)]⟩ (.field ⟨[], field, v⟩) =
      some ⟨[name], fields ++ [(name, .table .stated (inner ++ [(field, .value v)]))]⟩ := by
  have hadd : addField ⟨[], field, v⟩ inner = some (inner ++ [(field, .value v)]) := by
    rw [addField, descend, update_of_not_mem hfield]
    rfl
  simp [Progress.add, descend, update_append h, hadd]

theorem foldlM_fields (h : name ∉ fields.map (·.1)) {inner : Fields}
    {added : List (String × Toml)} (hadded : (inner.map (·.1) ++ added.map (·.1)).Nodup) :
    (added.map fun field => Statement.field ⟨[], field.1, field.2⟩).foldlM Progress.add
        ⟨[name], fields ++ [(name, .table .stated inner)]⟩ =
      some ⟨[name], fields ++ [(name, .table .stated
        (inner ++ added.map fun field => (field.1, .value field.2)))]⟩ := by
  induction added generalizing inner with
  | nil => simp
  | cons field added ih =>
    have hnew : field.1 ∉ inner.map (·.1) := fun hmem =>
      (List.nodup_append.1 hadded).2.2 _ hmem _ List.mem_cons_self rfl
    have hmore := @ih (inner ++ [(field.1, .value field.2)]) (by simpa using hadded)
    simp [add_field h hnew, hmore]

theorem foldlM_section {p : Progress} {s : Section} (hname : s.1 ∉ p.fields.map (·.1))
    (hfields : (s.2.map (·.1)).Nodup) :
    (sectionStatements s).foldlM Progress.add p = some ⟨[s.1], p.fields ++ [sectionNode s]⟩ := by
  have hrest := @foldlM_fields s.1 p.fields hname [] s.2 hfields
  rw [sectionStatements, List.foldlM_cons, add_header hname, Option.bind_eq_bind,
    Option.bind_some, hrest]
  rfl

theorem foldlM_sections {p : Progress} {sections : List Section}
    (hnames : (p.fields.map (·.1) ++ sections.map (·.1)).Nodup)
    (hfields : ∀ s ∈ sections, (s.2.map (·.1)).Nodup) :
    ∃ current, (sections.flatMap sectionStatements).foldlM Progress.add p =
      some ⟨current, p.fields ++ sections.map sectionNode⟩ := by
  induction sections generalizing p with
  | nil => exact ⟨p.current, by simp⟩
  | cons s sections ih =>
    obtain ⟨hfirst, hmore⟩ := List.forall_mem_cons.1 hfields
    have hnew : s.1 ∉ p.fields.map (·.1) := fun hmem =>
      (List.nodup_append.1 hnames).2.2 _ hmem _ List.mem_cons_self rfl
    obtain ⟨current, hrest⟩ := @ih ⟨[s.1], p.fields ++ [sectionNode s]⟩
      (by simpa [sectionNode] using hnames) hmore
    refine ⟨current, ?_⟩
    rw [List.flatMap_cons, List.foldlM_append, foldlM_section hnew hfirst, Option.bind_eq_bind,
      Option.bind_some, hrest, List.map_cons, List.append_assoc, List.singleton_append]

theorem finishFields_eq_map (fields : Fields) :
    finishFields fields = fields.map fun field => (field.1, field.2.finish) := by
  induction fields with
  | nil => rfl
  | cons field fields ih =>
    obtain ⟨name, node⟩ := field
    rw [finishFields, ih, List.map_cons]

theorem finish_sectionNode (s : Section) : (sectionNode s).2.finish = .table s.2 := by
  rw [sectionNode, Node.finish, finishFields_eq_map, List.map_map]
  simp [Function.comp_def, Node.finish]

/-- A document of sections is read as the table of its sections. -/
theorem parse?_of_writes {sections : List Section} {text : List Char}
    (h : Writes (sections.flatMap sectionStatements) text) (hnames : (sections.map (·.1)).Nodup)
    (hfields : ∀ s ∈ sections, (s.2.map (·.1)).Nodup) :
    parse? text = some (.table (sections.map fun s => (s.1, .table s.2))) := by
  have hstatements := h.statements?_eq (Nat.lt_succ_self text.length)
  obtain ⟨current, hmade⟩ := @foldlM_sections ⟨[], []⟩ sections hnames hfields
  have hfinish : finishFields (sections.map sectionNode) =
      sections.map fun s => (s.1, .table s.2) := by
    rw [finishFields_eq_map, List.map_map]
    refine List.map_congr_left fun s _ => ?_
    simp only [Function.comp_apply, finish_sectionNode]
    rfl
  rw [parse?, h.withoutMark_eq, hstatements]
  simp only [Option.bind_eq_bind, Option.bind_some, ofStatements?, hmade, List.nil_append, hfinish]

end Subtitler.Toml
