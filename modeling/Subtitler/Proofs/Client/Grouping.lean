import Mathlib.Data.List.Forall2
import Mathlib.Data.List.Nodup
import Mathlib.Data.String.Basic
import Subtitler.Client.Listing
import Subtitler.Proofs.Text.ByteOrder

/-!
# Listings by language

**Theorem (`listing_grouped`).** An answer whose body is a JSON list of items (`IsListing`) becomes
tracks that group the items (`Grouped`): there is one track for each language that occurs, in the
order of the bytes of the languages; each holds the files of its items in the order of the answer;
and looking a language up among the tracks finds all files of the language, or nothing if no item
has it.

The languages are all different, so that the groups of the items, one after the other, are the
items in another order (`perm_groups`).
-/

namespace Subtitler.Listing

open Text

/-! ## Lists of items in JSON -/

/-- A record of an item, as an object, which may have more fields, or as an array. -/
inductive IsItem : Json → Item → Prop
  | object {fields : List (String × Json)} {item : Item}
    (hid : Json.valuesOf "id" fields = [.text item.id])
    (hurl : Json.valuesOf "url" fields = [.text item.url])
    (hlanguage : Json.valuesOf "lang" fields = [.text item.language]) :
      IsItem (.object fields) item
  | array (item : Item) : IsItem (.array [.text item.id, .text item.url, .text item.language]) item

/-- A record of a listing, as an object, which may have more fields, or as an array. -/
inductive IsListing : Json → List Item → Prop
  | object {fields : List (String × Json)} {values : List Json} {items : List Item}
    (hfield : Json.valuesOf "subtitles" fields = [.array values])
    (hitems : List.Forall₂ IsItem values items) : IsListing (.object fields) items
  | array {values : List Json} {items : List Item} (hitems : List.Forall₂ IsItem values items) :
      IsListing (.array [.array values]) items

theorem text?_eq_some_iff {value : Json} {text : String} :
    Json.text? value = some text ↔ value = .text text := by
  cases value <;> simp [Json.text?]

/-- A field of a record that has to be a text. -/
def textField? (name : String) (fields : List (String × Json)) : Option String :=
  (Json.slot? name fields).bind (Json.required Json.text?)

theorem textField?_eq_some_iff {name text : String} {fields : List (String × Json)} :
    textField? name fields = some text ↔ Json.valuesOf name fields = [.text text] := by
  unfold textField? Json.slot?
  split <;> simp_all [Json.required, text?_eq_some_iff]

theorem ofJson?_object (fields : List (String × Json)) :
    Item.ofJson? (.object fields) =
      (textField? "id" fields).bind fun id => (textField? "url" fields).bind fun url =>
        (textField? "lang" fields).bind fun language => some ⟨id, url, language⟩ := by
  unfold textField?
  cases hid : Json.slot? "id" fields <;> cases hurl : Json.slot? "url" fields <;>
    cases hlanguage : Json.slot? "lang" fields <;>
    simp [Item.ofJson?, Json.record?, hid, hurl, hlanguage]

theorem ofJson?_eq_some_iff {value : Json} {item : Item} :
    Item.ofJson? value = some item ↔ IsItem value item := by
  constructor
  · intro h
    cases value with
    | object fields =>
      rw [ofJson?_object] at h
      simp only [Option.bind_eq_some_iff, Option.some.injEq, textField?_eq_some_iff] at h
      obtain ⟨id, hid, url, hurl, language, hlanguage, rfl⟩ := h
      exact .object hid hurl hlanguage
    | array values =>
      match values, h with
      | [id, url, language], h =>
        obtain ⟨id, hid, h⟩ := Option.bind_eq_some_iff.1 h
        obtain ⟨url, hurl, h⟩ := Option.bind_eq_some_iff.1 h
        obtain ⟨language, hlanguage, h⟩ := Option.bind_eq_some_iff.1 h
        obtain rfl := text?_eq_some_iff.1 hid
        obtain rfl := text?_eq_some_iff.1 hurl
        obtain rfl := text?_eq_some_iff.1 hlanguage
        obtain rfl := Option.some.inj h
        exact .array ⟨id, url, language⟩
    | _ => cases h
  · intro h
    cases h with
    | object hid hurl hlanguage =>
      rw [ofJson?_object, textField?_eq_some_iff.2 hid, textField?_eq_some_iff.2 hurl,
        textField?_eq_some_iff.2 hlanguage]
      rfl
    | array => rfl

theorem mapM_ofJson?_eq_some_iff {values : List Json} {items : List Item} :
    values.mapM Item.ofJson? = some items ↔ List.Forall₂ IsItem values items := by
  induction values generalizing items with
  | nil => simp [List.forall₂_nil_left_iff, eq_comm]
  | cons value values ih =>
    simp only [List.mapM_cons, List.forall₂_cons_left_iff, ← ih, ← ofJson?_eq_some_iff,
      Option.bind_eq_bind, Option.bind_eq_some_iff, Option.pure_def, Option.some.injEq]
    grind

theorem list?_eq_some_iff {value : Json} {items : List Item} :
    Json.list? Item.ofJson? value = some items ↔
      ∃ values, value = .array values ∧ List.Forall₂ IsItem values items := by
  cases value <;> simp [Json.list?, mapM_ofJson?_eq_some_iff]

theorem isListing_iff {value : Json} {items : List Item} : IsListing value items ↔
    ∃ slot, Json.record? ["subtitles"] value = some [some slot] ∧
      Json.list? Item.ofJson? slot = some items := by
  constructor
  · rintro (⟨hfield, hitems⟩ | hitems)
    · exact ⟨_, by simp [Json.record?, Json.slot?, hfield],
        list?_eq_some_iff.2 ⟨_, rfl, hitems⟩⟩
    · exact ⟨_, rfl, list?_eq_some_iff.2 ⟨_, rfl, hitems⟩⟩
  · rintro ⟨slot, hrecord, hslot⟩
    obtain ⟨values, rfl, hitems⟩ := list?_eq_some_iff.1 hslot
    cases value with
    | object fields =>
      have hfield : Json.slot? "subtitles" fields = some (some (.array values)) := by
        cases hslot : Json.slot? "subtitles" fields <;> simp_all [Json.record?]
      refine .object ?_ hitems
      unfold Json.slot? at hfield
      split at hfield <;> simp_all
    | array slots =>
      match slots, hrecord with
      | [_], rfl => exact .array hitems
    | _ => cases hrecord

/-- What is read as a listing are the JSON lists of items. -/
theorem items?_eq_some_iff {body : List UInt8} {items : List Item} :
    items? body = some items ↔ ∃ text value, Utf8.decode? body = some text ∧
      Json.parse? text = some value ∧ IsListing value items := by
  simp only [items?, isListing_iff, Option.bind_eq_bind, Option.bind_eq_some_iff]
  constructor
  · rintro ⟨text, htext, value, hvalue, slots, hslots, hitems⟩
    match slots, hitems with
    | [some slot], hitems => exact ⟨text, value, htext, hvalue, slot, hslots, hitems⟩
    | [none], hitems => cases hitems
  · rintro ⟨text, value, htext, hvalue, slot, hslots, hitems⟩
    exact ⟨text, htext, value, hvalue, [some slot], hslots, hitems⟩

/-! ## Groups -/

section Groups

variable {α κ : Type} [DecidableEq κ]

theorem nodup_eraseDups (keys : List κ) : keys.eraseDups.Nodup := by
  cases keys with
  | nil => simp
  | cons key keys =>
    rw [List.eraseDups_cons, List.nodup_cons]
    exact ⟨by simp [List.mem_eraseDups], nodup_eraseDups _⟩
termination_by keys.length
decreasing_by exact Nat.lt_succ_of_le (List.length_filter_le _ _)

/-- The groups of different keys are a rearrangement of all values with these keys. -/
theorem perm_groups (key : α → κ) {keys : List κ} (hkeys : keys.Nodup) {values : List α}
    (h : ∀ value ∈ values, key value ∈ keys) :
    (keys.flatMap fun k => values.filter (key · == k)).Perm values := by
  induction keys generalizing values with
  | nil =>
    obtain rfl : values = [] := List.eq_nil_iff_forall_not_mem.2 fun value hvalue => by
      simpa using h value hvalue
    exact .nil
  | cons k keys ih =>
    obtain ⟨hk, hkeys⟩ := List.nodup_cons.1 hkeys
    -- The other groups have nothing to do with the values of the first one.
    have hothers : (keys.flatMap fun k' => values.filter (key · == k')) =
        keys.flatMap fun k' => (values.filter (!key · == k)).filter (key · == k') := by
      refine List.flatMap_congr fun k' hk' => ?_
      rw [List.filter_filter]
      refine List.filter_congr fun value _ => ?_
      by_cases hv : key value = k'
      · have hne : k' ≠ k := fun heq => hk (heq ▸ hk')
        simp [hv, hne]
      · simp [hv]
    have hrest : ∀ value ∈ values.filter (!key · == k), key value ∈ keys := by
      intro value hvalue
      obtain ⟨hvalue, hne⟩ := List.mem_filter.1 hvalue
      exact (List.mem_cons.1 (h value hvalue)).resolve_left (by simpa using hne)
    rw [List.flatMap_cons, hothers]
    exact ((ih hkeys hrest).append_left _).trans (List.filter_append_perm _ values)

end Groups

/-! ## Languages -/

variable {items : List Item}

theorem mem_languages {language : String} :
    language ∈ languages items ↔ ∃ item ∈ items, item.language = language := by
  rw [languages, (List.mergeSort_perm _ _).mem_iff, List.mem_eraseDups, List.mem_map]

theorem nodup_languages (items : List Item) : (languages items).Nodup :=
  (List.mergeSort_perm _ _).nodup_iff.2 (nodup_eraseDups _)

theorem pairwise_languages (items : List Item) :
    (languages items).Pairwise fun a b => Utf8.bytesOf a < Utf8.bytesOf b := by
  have hle : (languages items).Pairwise fun a b => decide (a ≤ b) = true :=
    List.pairwise_mergeSort (by simpa using fun a b c => le_trans) (by simpa using le_total) _
  refine (hle.and (nodup_languages items)).imp fun {a b} ⟨hle, hne⟩ => ?_
  have hlt : a < b := lt_of_le_of_ne (of_decide_eq_true hle) hne
  exact Utf8.byteLt_iff.1 (decide_eq_true hlt)

/-! ## Tracks -/

/-- The track of a language: the files of its items in their order, with their identifiers and
addresses. -/
def IsEntry (imdbId : String) (items : List Item) (language : String) (track : Track) : Prop :=
  ∃ files, track = .language (some imdbId) language files ∧
    files.map (fun file => (file.id, file.url)) =
      (items.filter (·.language = language)).map fun item => (item.id, item.url)

/-- Tracks group items by their languages. -/
structure Grouped (imdbId : String) (items : List Item) (tracks : List Track) : Prop where
  /-- Every track is that of a language. -/
  entries : ∀ track ∈ tracks, ∃ language, IsEntry imdbId items language track
  /-- There are tracks for the languages of the items, and for no others. -/
  languages : ∀ language, language ∈ tracks.filterMap Track.language? ↔
    ∃ item ∈ items, item.language = language
  /-- The languages ascend in the order of their bytes, so none has two tracks. -/
  ascending : (tracks.filterMap Track.language?).Pairwise fun a b =>
    Utf8.bytesOf a < Utf8.bytesOf b
  /-- Every item is in one track once, that of its language. -/
  complete : (tracks.flatMap fun track => track.files.map fun file =>
      (track.language?, file.id, file.url)).Perm
    (items.map fun item => (some item.language, item.id, item.url))
  /-- A language is found if an item has it. -/
  found : ∀ language, (∃ item ∈ items, item.language = language) →
    Track.ofLanguage tracks language ∈ tracks ∧
      IsEntry imdbId items language (Track.ofLanguage tracks language)
  /-- A language that no item has is not found. -/
  missing : ∀ language, Track.ofLanguage tracks language = .none ↔
    ∀ item ∈ items, item.language ≠ language

variable (imdbId : String)

/-- The track that is made for a language. -/
def entry (items : List Item) (language : String) : Track :=
  .language (some imdbId) language ((items.filter (·.language == language)).map Item.file)

theorem tracks_eq (items : List Item) :
    tracks imdbId items = (languages items).map (entry imdbId items) := rfl

theorem isEntry_entry (items : List Item) (language : String) :
    IsEntry imdbId items language (entry imdbId items language) := by
  refine ⟨_, rfl, ?_⟩
  rw [List.map_map]
  rfl

theorem languages_tracks (items : List Item) :
    (tracks imdbId items).filterMap Track.language? = languages items := by
  rw [tracks_eq, List.filterMap_map]
  exact List.filterMap_some

theorem perm_files (items : List Item) :
    ((tracks imdbId items).flatMap fun track => track.files.map fun file =>
      (track.language?, file.id, file.url)).Perm
    (items.map fun item => (some item.language, item.id, item.url)) := by
  have hgroups : ((languages items).flatMap fun l => items.filter (·.language == l)).Perm items :=
    perm_groups _ (nodup_languages items) fun item hitem => mem_languages.2 ⟨item, hitem, rfl⟩
  have hentries : ((tracks imdbId items).flatMap fun track => track.files.map fun file =>
      (track.language?, file.id, file.url)) =
      ((languages items).flatMap fun l => items.filter (·.language == l)).map fun item =>
        (some item.language, item.id, item.url) := by
    rw [tracks_eq, List.flatMap_map, List.map_flatMap]
    refine List.flatMap_congr fun l _ => ?_
    simp only [entry, Track.files, Track.language?, List.map_map]
    refine List.map_congr_left fun item hitem => ?_
    have hl : item.language = l := by simpa using (List.mem_filter.1 hitem).2
    simp [hl, Item.file, SubtitleFile.ofName]
  rw [hentries]
  exact hgroups.map _

theorem ofLanguage_tracks (items : List Item) (language : String) :
    Track.ofLanguage (tracks imdbId items) language =
      if language ∈ languages items then entry imdbId items language else .none := by
  have hlanguage : (fun track => track.language? == some language) ∘ entry imdbId items =
      (· == language) := by
    funext l
    simp [entry, Track.language?]
  rw [Track.ofLanguage, tracks_eq, List.find?_map, hlanguage]
  cases hfind : (languages items).find? (· == language) with
  | none =>
    have hmissing : language ∉ languages items := fun h => by
      simpa using List.find?_eq_none.1 hfind _ h
    rw [if_neg hmissing]
    rfl
  | some l =>
    obtain rfl : l = language := by simpa using List.find?_some hfind
    rw [if_pos (List.mem_of_find?_eq_some hfind)]
    rfl

theorem grouped_tracks (items : List Item) : Grouped imdbId items (tracks imdbId items) where
  entries := by
    intro track htrack
    obtain ⟨language, -, rfl⟩ := List.mem_map.1 htrack
    exact ⟨language, isEntry_entry imdbId items language⟩
  languages := by
    intro language
    rw [languages_tracks]
    exact mem_languages
  ascending := by
    rw [languages_tracks]
    exact pairwise_languages items
  complete := perm_files imdbId items
  found := by
    intro language hitem
    have hlanguage := mem_languages.2 hitem
    rw [ofLanguage_tracks, if_pos hlanguage]
    exact ⟨List.mem_map_of_mem hlanguage, isEntry_entry imdbId items language⟩
  missing := by
    intro language
    rw [ofLanguage_tracks]
    by_cases h : language ∈ languages items
    · obtain ⟨item, hitem, rfl⟩ := mem_languages.1 h
      rw [if_pos h]
      exact iff_of_false (by simp [entry]) fun hnone => hnone item hitem rfl
    · rw [if_neg h]
      exact iff_of_true rfl fun item hitem heq => h (mem_languages.2 ⟨item, hitem, heq⟩)

/-! ## Answers -/

/-- An identifier with the two letters that all of them start with. -/
def IsFullId (id full : String) : Prop :=
  "tt".toList <+: full.toList ∧ (full = id ∨ full = "tt" ++ id ∧ ¬"tt".toList <+: id.toList)

theorem isFullId_imdbIdWithStart (id : String) : IsFullId id (imdbIdWithStart id) := by
  unfold imdbIdWithStart
  split_ifs with h
  · exact ⟨List.isPrefixOf_iff_prefix.1 h, .inl rfl⟩
  · rw [List.isPrefixOf_iff_prefix] at h
    exact ⟨by simp [String.toList_append], .inr ⟨rfl, h⟩⟩

/-- **A listing groups what the server lists.** -/
theorem listing_grouped (media : MediaContext) {status : Nat} {body : List UInt8}
    {text : List Char} {value : Json} {items : List Item}
    (hstatus : Http.isSuccess status = true) (htext : Utf8.decode? body = some text)
    (hvalue : Json.parse? text = some value) (hitems : IsListing value items) :
    ∃ imdbId tracks, IsFullId media.imdbId imdbId ∧
      ofExchange media (.answered status (.ok body)) = .ok tracks ∧
        Grouped imdbId items tracks := by
  refine ⟨_, _, isFullId_imdbIdWithStart media.imdbId, ?_, grouped_tracks _ items⟩
  have hread := items?_eq_some_iff.2 ⟨text, value, htext, hvalue, hitems⟩
  simp [ofExchange, hstatus, hread]

/-- Items of two languages by turns; the last one is the first one again. -/
def interleaved : List Item := [⟨"1", "a", "fre"⟩, ⟨"2", "b", "eng"⟩, ⟨"1", "a", "fre"⟩]

/-- An answer that lists these items. -/
def interleavedBody : List UInt8 :=
  Utf8.bytesOf ("\x7b\"subtitles\": [" ++
    "\x7b\"id\": \"1\", \"url\": \"a\", \"lang\": \"fre\"\x7d, " ++
    "\x7b\"id\": \"2\", \"url\": \"b\", \"lang\": \"eng\"\x7d, " ++
    "\x7b\"id\": \"1\", \"url\": \"a\", \"lang\": \"fre\"\x7d]\x7d")

theorem listing_grouped_interleaved :
    items? interleavedBody = some interleaved ∧
      ∃ imdbId tracks, IsFullId "0234215" imdbId ∧
        ofExchange (.movie "0234215") (.answered 200 (.ok interleavedBody)) = .ok tracks ∧
          Grouped imdbId interleaved tracks := by
  have hread : items? interleavedBody = some interleaved := by decide +kernel
  obtain ⟨text, value, htext, hvalue, hitems⟩ := items?_eq_some_iff.1 hread
  exact ⟨hread, listing_grouped (.movie "0234215") (by decide) htext hvalue hitems⟩

end Subtitler.Listing
