import Subtitler.Player.Control
import Subtitler.Proofs.Text.Lines
import Subtitler.Proofs.Text.Utf8

/-!
# Replies of a player

A line *reads as* a report if it is JSON for a record with two fields, the error and the event, each
of them a text that may be absent or null (`ofLine?_eq_some_iff`). A reply is a report of no event,
and says with its error what became of the command. All other lines are passed over.

What comes back over the control channel is cut at its line feeds before it is read as text. For
bytes of a text this gives the lines of the text (`outcome_encode`), since the byte of a line feed
is in no other character.

**Theorem (`answer_first_reply`).** The first reply among the lines of the stream decides, whatever
comes before it and after it; a stream without a reply is a closed connection. So nothing changes
when lines that are no replies are put in anywhere, or when lines after a reply are replaced.
-/

namespace Subtitler.Player

/-! ## Reports -/

/-- The text that a field has, if any. -/
inductive IsOptionalText : Option Json → Option String → Prop
  | absent : IsOptionalText none none
  | null : IsOptionalText (some .null) none
  | text (s : String) : IsOptionalText (some (.text s)) (some s)

/-- A value is the record of a report. An object has each of the names at most once, among any
others; an array has the two fields in order and nothing else. -/
inductive IsReport : Json → Reply → Prop
  | object {fields : List (String × Json)} {error event : Option Json} {report : Reply} :
    Json.valuesOf "error" fields = error.toList → Json.valuesOf "event" fields = event.toList →
      IsOptionalText error report.error → IsOptionalText event report.event →
        IsReport (.object fields) report
  | array {error event : Json} {report : Reply} :
    IsOptionalText (some error) report.error → IsOptionalText (some event) report.event →
      IsReport (.array [error, event]) report

/-- A line reads as a report. -/
def ReadsAs (line : List Char) (report : Reply) : Prop :=
  ∃ value, Json.parse? line = some value ∧ IsReport value report

section Reports

variable {line : List Char} {slot : Option Json}

theorem maybe_text?_eq_some_iff {s : Option String} :
    Json.maybe Json.text? slot = some s ↔ IsOptionalText slot s := by
  constructor
  · intro h
    match slot, h with
    | none, rfl => exact .absent
    | some .null, rfl => exact .null
    | some (.text s), rfl => exact .text s
  · intro h
    cases h <;> rfl

theorem slot?_eq_some_iff {name : String} {fields : List (String × Json)} :
    Json.slot? name fields = some slot ↔ Json.valuesOf name fields = slot.toList := by
  unfold Json.slot?
  rcases Json.valuesOf name fields with - | ⟨value, - | ⟨other, more⟩⟩ <;> cases slot <;> simp

theorem isReport_iff {value : Json} {report : Reply} : IsReport value report ↔
    ∃ error event, Json.record? ["error", "event"] value = some [error, event] ∧
      IsOptionalText error report.error ∧ IsOptionalText event report.event := by
  constructor
  · rintro (⟨herrors, hevents, herror, hevent⟩ | ⟨herror, hevent⟩)
    · refine ⟨_, _, ?_, herror, hevent⟩
      simp [Json.record?, slot?_eq_some_iff.2 herrors, slot?_eq_some_iff.2 hevents]
    · exact ⟨_, _, rfl, herror, hevent⟩
  · rintro ⟨error, event, hrecord, hfields⟩
    cases value with
    | object fields =>
      have hslots : Json.slot? "error" fields = some error ∧
          Json.slot? "event" fields = some event := by
        cases herror : Json.slot? "error" fields <;> cases hevent : Json.slot? "event" fields <;>
          simp_all [Json.record?]
      exact .object (slot?_eq_some_iff.1 hslots.1) (slot?_eq_some_iff.1 hslots.2) hfields.1
        hfields.2
    | array items =>
      match items, hrecord with
      | [_, _], rfl => exact .array hfields.1 hfields.2
    | _ => cases hrecord

/-- What is read from a line are the reports. -/
theorem ofLine?_eq_some_iff {report : Reply} :
    Reply.ofLine? line = some report ↔ ReadsAs line report := by
  simp only [Reply.ofLine?, ReadsAs, isReport_iff, Option.bind_eq_bind, Option.bind_eq_some_iff]
  constructor
  · rintro ⟨value, hvalue, slots, hslots, hreport⟩
    match slots, hreport with
    | [slot, other], hreport =>
      obtain ⟨error, herror, hreport⟩ := Option.bind_eq_some_iff.1 hreport
      obtain ⟨event, hevent, hreport⟩ := Option.bind_eq_some_iff.1 hreport
      obtain rfl := Option.some.inj hreport
      exact ⟨value, hvalue, slot, other, hslots, maybe_text?_eq_some_iff.1 herror,
        maybe_text?_eq_some_iff.1 hevent⟩
  · rintro ⟨value, hvalue, slot, other, hslots, herror, hevent⟩
    refine ⟨value, hvalue, _, hslots, ?_⟩
    dsimp only
    rw [maybe_text?_eq_some_iff.2 herror, maybe_text?_eq_some_iff.2 hevent]
    rfl

end Reports

/-! ## Replies -/

/-- A line is a reply with the given error: a report of no event. -/
def IsReply (line : List Char) (error : Option String) : Prop := ReadsAs line ⟨error, none⟩

/-- A line is passed over: it reads as the report of an event, or as none at all. -/
inductive IsPassedOver (line : List Char) : Prop
  | event {error : Option String} {name : String} : ReadsAs line ⟨error, some name⟩ →
    IsPassedOver line
  | unread : (∀ report, ¬ReadsAs line report) → IsPassedOver line

/-- There is no reply among the lines. -/
def NoReply (lines : List (List Char)) : Prop := ∀ line ∈ lines, IsPassedOver line

/-- What the error of a reply says of the command. -/
inductive Verdict : Option String → Except PlayerError Unit → Prop
  | silent : Verdict none (.ok ())
  | success : Verdict (some "success") (.ok ())
  | failure {reason : String} : reason ≠ "success" →
    Verdict (some reason) (.error (.rejected reason))

/-- The error of a reply says one thing only. -/
theorem Verdict.unique {error : Option String} {result other : Except PlayerError Unit}
    (h : Verdict error result) (hother : Verdict error other) : result = other := by
  cases h with
  | silent => cases hother with | silent => rfl
  | success =>
    cases hother with
    | success => rfl
    | failure hreason => exact absurd rfl hreason
  | failure hreason =>
    cases hother with
    | success => exact absurd rfl hreason
    | failure => rfl

/-- What the first reply among some lines decides. -/
def decided (lines : List (List Char)) : Except PlayerError Unit :=
  (lines.findSome? outcome?).getD (.error (.channel "connection closed"))

section Replies

variable {line : List Char} {before lines : List (List Char)} {error : Option String}

theorem outcome?_of_isReply (h : IsReply line error) :
    ∃ result, outcome? line = some result ∧ Verdict error result := by
  rw [outcome?, ofLine?_eq_some_iff.2 h]
  match error with
  | none => exact ⟨_, rfl, .silent⟩
  | some reason =>
    by_cases hreason : reason = "success"
    · subst hreason
      exact ⟨_, rfl, .success⟩
    · exact ⟨.error (.rejected reason), by simp, .failure hreason⟩

theorem outcome?_eq_none_iff : outcome? line = none ↔ IsPassedOver line := by
  constructor
  · intro hnone
    cases hreport : Reply.ofLine? line with
    | none =>
      refine .unread fun report hreads => ?_
      rw [ofLine?_eq_some_iff.2 hreads] at hreport
      cases hreport
    | some report =>
      obtain ⟨error, event⟩ := report
      have hreads := ofLine?_eq_some_iff.1 hreport
      cases event with
      | some name => exact .event hreads
      | none =>
        obtain ⟨result, hresult, -⟩ := outcome?_of_isReply hreads
        rw [hnone] at hresult
        cases hresult
  · intro h
    rw [outcome?]
    cases h with
    | event hreads =>
      rw [ofLine?_eq_some_iff.2 hreads]
      rfl
    | unread hunread =>
      have hnone : Reply.ofLine? line = none :=
        Option.eq_none_iff_forall_ne_some.2 fun report hreport =>
          hunread report (ofLine?_eq_some_iff.1 hreport)
      rw [hnone]
      rfl

theorem noReply_iff : NoReply lines ↔ lines.findSome? outcome? = none := by
  simp only [NoReply, List.findSome?_eq_none_iff, outcome?_eq_none_iff]

theorem decided_cons (line : List Char) (more : List (List Char)) :
    decided (line :: more) = (outcome? line).getD (decided more) := by
  rw [decided, List.findSome?_cons]
  cases outcome? line <;> rfl

theorem decided_of_noReply (h : NoReply lines) :
    decided lines = .error (.channel "connection closed") := by
  rw [decided, noReply_iff.1 h, Option.getD_none]

theorem decided_of_isReply (hbefore : NoReply before) (h : IsReply line error)
    (after : List (List Char)) : Verdict error (decided (before ++ line :: after)) := by
  obtain ⟨result, hresult, hverdict⟩ := outcome?_of_isReply h
  rwa [decided, List.findSome?_append, noReply_iff.1 hbefore, Option.none_or, ← decided,
    decided_cons, hresult, Option.getD_some]

/-- Lines that are no replies may be put in anywhere. -/
theorem decided_insert {noise : List (List Char)} (h : NoReply noise)
    (before rest : List (List Char)) :
    decided (before ++ noise ++ rest) = decided (before ++ rest) := by
  simp only [decided, List.findSome?_append, noReply_iff.1 h, Option.or_none]

/-- What follows a reply does not matter. -/
theorem decided_replace (h : IsReply line error) (before after others : List (List Char)) :
    decided (before ++ line :: others) = decided (before ++ line :: after) := by
  obtain ⟨result, hresult, -⟩ := outcome?_of_isReply h
  simp only [decided, List.findSome?_append, List.findSome?_cons, hresult]

end Replies

/-! ## Streams -/

section Streams

variable {bytes : List UInt8}

theorem streamLines_unended (hne : bytes ≠ []) (h : 0x0A ∉ bytes) :
    streamLines bytes = [bytes] := by
  induction bytes with
  | nil => exact absurd rfl hne
  | cons b bytes ih =>
    obtain ⟨hb, hbytes⟩ := not_or.1 (mt List.mem_cons.2 h)
    rw [streamLines, if_neg (Ne.symm hb)]
    cases bytes with
    | nil => rfl
    | cons c bytes => rw [ih (List.cons_ne_nil c bytes) hbytes]

theorem streamLines_append_feed (rest : List UInt8) (h : 0x0A ∉ bytes) :
    streamLines (bytes ++ 0x0A :: rest) = (bytes ++ [0x0A]) :: streamLines rest := by
  induction bytes with
  | nil => rw [List.nil_append, streamLines, if_pos rfl, List.nil_append]
  | cons b bytes ih =>
    obtain ⟨hb, hbytes⟩ := not_or.1 (mt List.mem_cons.2 h)
    rw [List.cons_append, streamLines, if_neg (Ne.symm hb), ih hbytes, List.cons_append]

end Streams

section Texts

variable {line text : List Char} {lines : List (List Char)}

theorem outcome_cons_encode (line : List Char) (more : List (List UInt8)) :
    outcome (Text.Utf8.encode line :: more) =
      (outcome? (withoutEnd line)).getD (outcome more) := by
  have hdecode : Text.Utf8.decode (Text.Utf8.encode line) = .ok line := by
    rw [Text.Utf8.decode, Text.Utf8.decode?_encode]
  rw [outcome, hdecode]
  dsimp only
  cases outcome? (withoutEnd line) <;> rfl

theorem outcome_encode_feed (rest : List Char) (h : '\n' ∉ line) :
    outcome (streamLines (Text.Utf8.encode (line ++ '\n' :: rest))) =
      (outcome? (withoutEnd (line ++ ['\n']))).getD
        (outcome (streamLines (Text.Utf8.encode rest))) := by
  have hsplit (more : List Char) : Text.Utf8.encode (line ++ '\n' :: more) =
      Text.Utf8.encode line ++ 0x0A :: Text.Utf8.encode more := by
    rw [Text.Utf8.encode, List.flatMap_append, List.flatMap_cons]
    rfl
  have hend : Text.Utf8.encode line ++ [0x0A] = Text.Utf8.encode (line ++ ['\n']) :=
    (hsplit []).symm
  rw [hsplit, streamLines_append_feed _ (Text.Utf8.not_mem_encode rfl (by decide) h), hend,
    outcome_cons_encode]

/-- **The lines of a text decide as they do when they are read one by one.** -/
theorem outcome_encode (h : Text.ConsistsOf text lines) :
    outcome (streamLines (Text.Utf8.encode text)) = decided lines := by
  induction h with
  | none => rfl
  | @unended line hne hfeed =>
    have hbytes : Text.Utf8.encode line ≠ [] := by
      obtain ⟨c, line, rfl⟩ := List.exists_cons_of_ne_nil hne
      simp [Text.Utf8.encode]
    rw [streamLines_unended hbytes (Text.Utf8.not_mem_encode rfl (by decide) hfeed),
      outcome_cons_encode, withoutEnd, Text.lines_unended hne hfeed, decided_cons]
    rfl
  | feed hfeed hlast _ ih =>
    rw [outcome_encode_feed _ hfeed, ih, withoutEnd, Text.lines_append_feed [] hfeed hlast,
      decided_cons]
    rfl
  | @returnFeed line rest lines hfeed _ ih =>
    -- The carriage return is not taken off before the line is cut out and read as text.
    have hreturn : '\n' ∉ line ++ ['\r'] := by simpa using hfeed
    have hcut : line ++ '\r' :: '\n' :: rest = line ++ ['\r'] ++ '\n' :: rest := by simp
    have hline : Text.lines (line ++ ['\r'] ++ ['\n']) = [line] := by
      simpa using Text.lines_append_returnFeed [] hfeed
    rw [hcut, outcome_encode_feed _ hreturn, ih, withoutEnd, hline, decided_cons]
    rfl

theorem answer_encode (call : PlayerCall) (h : Text.ConsistsOf text lines) :
    answer .mpv (some (Text.Utf8.encode text)) call = decided lines :=
  outcome_encode h

end Texts

/-! ## Calls -/

/-- **The first reply decides, and nothing else does.** -/
theorem answer_first_reply (call : PlayerCall) {text : List Char} {lines : List (List Char)}
    (hlines : Text.ConsistsOf text lines) :
    let answered := answer .mpv (some (Text.Utf8.encode text)) call
    (∀ before line after error, lines = before ++ line :: after → NoReply before →
        IsReply line error → Verdict error answered) ∧
      (NoReply lines → answered = .error (.channel "connection closed")) ∧
      (∀ before noise rest noisy, lines = before ++ rest → NoReply noise →
        Text.ConsistsOf noisy (before ++ noise ++ rest) →
          answer .mpv (some (Text.Utf8.encode noisy)) call = answered) ∧
      ∀ before line after others error changed, lines = before ++ line :: after →
        IsReply line error → Text.ConsistsOf changed (before ++ line :: others) →
          answer .mpv (some (Text.Utf8.encode changed)) call = answered := by
  intro answered
  have hanswered : answered = decided lines := answer_encode call hlines
  rw [hanswered]
  refine ⟨?_, decided_of_noReply, ?_, ?_⟩
  · rintro before line after error rfl hbefore hreply
    exact decided_of_isReply hbefore hreply after
  · rintro before noise rest noisy rfl hnoise hnoisy
    rw [answer_encode call hnoisy, decided_insert hnoise]
  · rintro before line after others error changed rfl hreply hchanged
    rw [answer_encode call hchanged, decided_replace hreply]

/-- An event with an error of its own, a line of no JSON, and an array with an item too few. -/
def passedOver : List (List Char) :=
  ["\x7b\"event\":\"seek\",\"error\":\"success\"\x7d", "mpv", "[\"success\"]"].map String.toList

/-- A reply that says more than its error. -/
def refusal : List Char := "\x7b\"data\":[1e999],\"error\":\"no file\"\x7d".toList

/-- These lines before the reply, which then has no line end, and a second reply after it. -/
theorem answer_first_reply_refusal :
    let passed := passedOver.flatMap (· ++ ['\r', '\n'])
    let success := "\x7b\"error\":\"success\"\x7d".toList
    let answered (text : List Char) := answer .mpv (some (Text.Utf8.encode text)) .pause
    answered refusal = .error (.rejected "no file") ∧
      answered passed = .error (.channel "connection closed") ∧
      answered (passed ++ refusal) = answered refusal ∧
      answered (refusal ++ '\n' :: success) = answered refusal := by
  intro passed success answered
  have hreply : IsReply refusal (some "no file") := ofLine?_eq_some_iff.1 (by decide +kernel)
  have hpassed : NoReply passedOver := noReply_iff.2 (by decide +kernel)
  have hlines : Text.ConsistsOf refusal [refusal] := Text.lines_eq_iff.1 (by decide +kernel)
  have hbefore : Text.ConsistsOf passed passedOver := Text.lines_eq_iff.1 (by decide +kernel)
  obtain ⟨hdecides, -, hinsert, hreplace⟩ := answer_first_reply .pause hlines
  obtain ⟨-, hclosed, -, -⟩ := answer_first_reply .pause hbefore
  have hverdict := hdecides [] refusal [] (some "no file") rfl nofun hreply
  have hmore : Text.ConsistsOf (refusal ++ '\n' :: success) [refusal, success] :=
    Text.lines_eq_iff.1 (by decide +kernel)
  refine ⟨hverdict.unique (.failure (by decide)), hclosed hpassed, ?_, ?_⟩
  · exact hinsert [] passedOver [refusal] _ rfl hpassed (Text.lines_eq_iff.1 (by decide +kernel))
  · exact hreplace [] refusal [] [success] _ _ rfl hreply hmore

end Subtitler.Player
