import Mathlib.Tactic.ByContra
import Mathlib.Tactic.Set
import Subtitler.Proofs.Manager.Operations

/-!
# Superseded operations

An operation that is cancelled is *superseded*: another selection, a stop or a new playback took
its place. Its end may still come in, at any later time.

**Theorem (`superseded_unobservable`).** Of all completions that are outstanding, at most one is
that of the operation in flight; the others are those of superseded operations, and taking one of
them changes nothing at all. So a run stays the same, with everything that was done in it, if the
ends of superseded operations are left out or come at other times, and it does not matter in which
order outstanding completions come in.

Leaving out a completion is sound only if its operation was not in flight when it came in. For that
it is enough that the operation is cancelled at the end of the run: an operation that ends while it
is in flight is never cancelled afterwards (`not_cancelled_of_isCurrent`).
-/

namespace Subtitler

/-- Whether a message is the end of an operation that was cancelled. -/
def Message.isSuperseded (l : Ledger) : Message → Bool
  | .completion c => l.cancelled.contains c.epoch
  | _ => false

/-- Completions that can come in for operations: each is the end of one of them, and no two are the
end of the same one. -/
structure Deliverable (operations : List InFlight) (completions : List Completion) : Prop where
  ends : ∀ c ∈ completions, ∃ op ∈ operations, c.endsOperation op = true
  once : completions.Pairwise fun c c' => ∀ op ∈ operations,
    c.endsOperation op = true → c'.endsOperation op = false

namespace Deliverable

theorem tail {operations : List InFlight} {c : Completion} {completions : List Completion}
    (h : Deliverable operations (c :: completions)) : Deliverable operations completions where
  ends c' hc' := h.ends c' (List.mem_cons_of_mem c hc')
  once := (List.pairwise_cons.1 h.once).2

theorem perm {operations : List InFlight} {completions completions' : List Completion}
    (h : Deliverable operations completions) (hp : completions.Perm completions') :
    Deliverable operations completions' where
  ends c hc := h.ends c (hp.mem_iff.2 hc)
  once := by
    refine hp.pairwise h.once fun hcc' op hop hends => ?_
    refine Bool.eq_false_iff.2 fun hends' => ?_
    exact absurd hends (Bool.eq_false_iff.1 (hcc' op hop hends'))

variable {l : Ledger} {completions : List Completion}

/-- What can come in for some of the operations that were started can come in for all of them: a
completion is not the end of any other operation. -/
theorem started {operations : List InFlight} (h : Deliverable operations completions)
    (hl : l.Ordered) (hsub : operations ⊆ l.started) : Deliverable l.started completions where
  ends c hc := by
    obtain ⟨op, hop, hends⟩ := h.ends c hc
    exact ⟨op, hsub hop, hends⟩
  once := by
    refine h.once.imp_of_mem fun {c c'} hc _ honce op hop hends => ?_
    obtain ⟨op', hop', hends'⟩ := h.ends c hc
    have hepoch : op.epoch = op'.epoch :=
      (Completion.epoch_eq hends).symm.trans (Completion.epoch_eq hends')
    obtain rfl : op = op' := hl.eq_of_epoch hop (hsub hop') hepoch
    exact honce op hop' hends

/-- No two completions are the end of the operation in flight. -/
theorem filter_isCurrent {c : Completion} (h : Deliverable l.started (c :: completions))
    (hl : l.Ordered) (hc : l.isCurrent c = true) : completions.filter l.isCurrent = [] := by
  refine List.filter_eq_nil_iff.2 fun c' hc' hcurrent => ?_
  obtain ⟨op, hop, hends⟩ := Ledger.isCurrent_iff.1 hc
  obtain ⟨op', hop', hends'⟩ := Ledger.isCurrent_iff.1 hcurrent
  obtain rfl : op = op' := Option.some.inj (hop.symm.trans hop')
  have honce := (List.pairwise_cons.1 h.once).1 c' hc' op (hl.mem hop) hends
  exact absurd hends' (Bool.eq_false_iff.1 honce)

theorem length_isCurrent_le_one (h : Deliverable l.started completions) (hl : l.Ordered) :
    (completions.filter l.isCurrent).length ≤ 1 := by
  induction completions with
  | nil => simp
  | cons c completions ih =>
    cases hc : l.isCurrent c with
    | true => simp [List.filter_cons_of_pos hc, h.filter_isCurrent hl hc]
    | false => simpa [hc] using ih h.tail

end Deliverable

namespace Manager

open Ledger

variable (answers : Answers) (preference : Preference)

/-- The operations that were started and whose ends have not been handled. -/
def outstanding (messages : List Message) : List InFlight :=
  (ledger (outcome answers preference messages)).started.filter fun op =>
    !messages.any (·.ends op)

/-- Messages without the ends of operations that a run supersedes. -/
def relevant (run : Run Manager) (messages : List Message) : List Message :=
  messages.filter fun message => !message.isSuperseded (ledger run)

/-! ## Leaving out -/

/-- An operation that has ended while it was in flight is never cancelled. -/
theorem not_cancelled_of_isCurrent {c : Completion} {first : List Message}
    (h : (ledger (outcome answers preference first)).isCurrent c = true) (rest : List Message) :
    c.epoch ∉
      (ledger (outcome answers preference (first ++ .completion c :: rest))).cancelled := by
  set run := outcome answers preference first with hrun
  obtain ⟨hpast, hnot⟩ := (ordered_outcome answers preference first).past_land h
  have hentries := entries_handle answers run (.completion c)
  rw [receive_of_isCurrent h] at hentries
  obtain ⟨hpast, hmem⟩ := Entries.past hentries hpast
  rw [outcome_append]
  exact fun hc => hnot (hmem.1 ((past_handleAll answers hpast rest).2.1 hc))

/-- The end of an operation that the run supersedes changes nothing when it comes in. -/
theorem handle_of_isSuperseded {message : Message} {first rest : List Message}
    (h : message.isSuperseded
      (ledger (outcome answers preference (first ++ message :: rest))) = true) :
    handle answers (outcome answers preference first) message =
      outcome answers preference first := by
  cases message with
  | completion c =>
    refine complete_of_not_isCurrent answers (Bool.eq_false_iff.2 fun hc => ?_)
    exact not_cancelled_of_isCurrent answers preference hc rest (List.contains_iff_mem.1 h)
  | call | bus => cases h

theorem handleAll_of_sublist {run : Run Manager} (first : List Message) {rest kept : List Message}
    (hrun : outcome answers preference (first ++ rest) = run) (hsub : kept.Sublist rest)
    (hkept : relevant run kept = relevant run rest) :
    handleAll answers kept (outcome answers preference first) = run := by
  induction hsub generalizing first with
  | slnil => rwa [List.append_nil] at hrun
  | @cons kept rest message hsub ih =>
    -- A message that is left out is superseded, since otherwise too few relevant ones are kept.
    have hsuperseded : message.isSuperseded (ledger run) = true := by
      by_contra h
      have hle : (relevant run kept).length ≤ (relevant run rest).length :=
        (hsub.filter _).length_le
      rw [hkept, relevant, List.filter_cons_of_pos (by simp [h]), List.length_cons] at hle
      exact Nat.not_succ_le_self _ hle
    have hnothing : outcome answers preference (first ++ [message]) =
        outcome answers preference first := by
      rw [outcome_concat]
      exact handle_of_isSuperseded answers preference (hrun ▸ hsuperseded)
    rw [← hnothing]
    refine ih (first ++ [message]) (by rw [← hrun, List.append_assoc]; rfl) ?_
    rw [hkept, relevant, List.filter_cons_of_neg (by simp [hsuperseded])]
    rfl
  | @cons_cons kept rest message hsub ih =>
    have hhandle : handleAll answers (message :: kept) (outcome answers preference first) =
        handleAll answers kept (outcome answers preference (first ++ [message])) := by
      rw [outcome_concat]
      rfl
    rw [hhandle]
    refine ih (first ++ [message]) (by rw [← hrun, List.append_assoc]; rfl) ?_
    by_cases h : message.isSuperseded (ledger run) = true
    · simpa [relevant, h] using hkept
    · simpa [relevant, h] using hkept

/-- Of the ends of superseded operations, all or some can be left out. -/
theorem outcome_of_sublist {messages kept : List Message} (hsub : kept.Sublist messages)
    (hkept : relevant (outcome answers preference messages) kept =
      relevant (outcome answers preference messages) messages) :
    outcome answers preference kept = outcome answers preference messages :=
  handleAll_of_sublist answers preference [] rfl hsub hkept

theorem outcome_relevant (messages : List Message) :
    outcome answers preference (relevant (outcome answers preference messages) messages) =
      outcome answers preference messages :=
  outcome_of_sublist answers preference List.filter_sublist (by simp [relevant])

/-! ## Reordering -/

/-- Completions that come too late change nothing. -/
theorem handleAll_of_past {run : Run Manager} {completions : List Completion}
    (h : ∀ c ∈ completions, (ledger run).Past c.epoch) :
    handleAll answers (completions.map .completion) run = run := by
  induction completions with
  | nil => rfl
  | cons c completions ih =>
    have hc : handle answers run (.completion c) = run :=
      complete_of_not_isCurrent answers (h c List.mem_cons_self).not_isCurrent
    rw [List.map_cons, handleAll, List.foldl_cons, hc]
    exact ih fun c' hc' => h c' (List.mem_cons_of_mem c hc')

/-- Of completions that come in one after the other, only the end of the operation in flight
counts. What it starts ends later than all of them. -/
theorem handleAll_deliverable {run : Run Manager} (hl : (ledger run).Ordered)
    {completions : List Completion} (h : Deliverable (ledger run).started completions) :
    handleAll answers (completions.map .completion) run =
      handleAll answers ((completions.filter (ledger run).isCurrent).map .completion) run := by
  induction completions with
  | nil => rfl
  | cons c completions ih =>
    cases hc : (ledger run).isCurrent c with
    | false =>
      have hnothing : handle answers run (.completion c) = run :=
        complete_of_not_isCurrent answers hc
      rw [List.filter_cons_of_neg (by simp [hc]), ← ih h.tail, List.map_cons, handleAll,
        List.foldl_cons, hnothing, handleAll]
    | true =>
      have hnil := h.filter_isCurrent hl hc
      have hothers : ∀ c' ∈ completions, (ledger run).isCurrent c' = false := fun c' hc' =>
        Bool.eq_false_iff.2 (List.filter_eq_nil_iff.1 hnil c' hc')
      have hpast : ∀ c' ∈ completions,
          (ledger (handle answers run (.completion c))).Past c'.epoch := by
        intro c' hc'
        obtain ⟨op, hop, hends⟩ := h.ends c' (List.mem_cons_of_mem c hc')
        have hpast := hl.past_of_not_isCurrent hop hends (hothers c' hc')
        exact (past_handleAll answers hpast [.completion c]).1
      rw [List.filter_cons_of_pos hc, hnil]
      exact handleAll_of_past answers hpast

theorem handleAll_perm {run : Run Manager} (hl : (ledger run).Ordered)
    {completions completions' : List Completion}
    (h : Deliverable (ledger run).started completions) (hp : completions.Perm completions') :
    handleAll answers (completions.map .completion) run =
      handleAll answers (completions'.map .completion) run := by
  have hfilter : (completions.filter (ledger run).isCurrent).Perm
      (completions'.filter (ledger run).isCurrent) := hp.filter _
  have hone := h.length_isCurrent_le_one hl
  have heq : completions.filter (ledger run).isCurrent =
      completions'.filter (ledger run).isCurrent := by
    match hf : completions.filter (ledger run).isCurrent with
    | [] =>
      rw [hf] at hfilter
      exact hfilter.nil_eq
    | [c] =>
      rw [hf] at hfilter
      exact (List.singleton_perm.1 hfilter)
    | _ :: _ :: _ => simp [hf] at hone
  rw [handleAll_deliverable answers hl h, handleAll_deliverable answers hl (h.perm hp), heq]

/-! ## Supersession -/

/-- What is outstanding is in flight, or else superseded. -/
theorem inFlight_iff_of_mem_outstanding {messages : List Message} {op : InFlight}
    (h : op ∈ outstanding answers preference messages) :
    (ledger (outcome answers preference messages)).inFlight = some op ↔
      op.epoch ∉ (ledger (outcome answers preference messages)).cancelled := by
  obtain ⟨hstarted, hends⟩ := List.mem_filter.1 h
  refine ⟨(ordered_outcome answers preference messages).fresh op, fun hnot => ?_⟩
  rcases accounted_outcome answers preference messages op hstarted with hop | hop | hop
  · exact hop
  · exact absurd hop hnot
  · simp [hop] at hends

/-- **Superseded operations cannot be observed.** After any messages, an outstanding operation is
either in flight or superseded. Of the completions that can come in for outstanding operations, at
most one is that of the operation in flight, and any other completion leaves the run as it is: the
state, and all that was told, called, started, published and logged. So a run does not change if
ends of superseded operations are left out, all or some. Two runs that differ in nothing else are
the same, and so are two runs that take outstanding completions in different orders, whatever comes
later. -/
theorem superseded_unobservable (messages : List Message) :
    let run := outcome answers preference messages
    let pending := outstanding answers preference messages
    (∀ op ∈ pending, run.state.session.inFlight = some op ↔
      op.epoch ∉ (ledger run).cancelled) ∧
    (∀ completions, Deliverable pending completions →
      (completions.filter (ledger run).isCurrent).length ≤ 1) ∧
    (∀ c, (ledger run).isCurrent c = false → handle answers run (.completion c) = run) ∧
    outcome answers preference (relevant run messages) = run ∧
    (∀ kept, kept.Sublist messages → relevant run kept = relevant run messages →
      outcome answers preference kept = run) ∧
    (∀ messages', relevant (outcome answers preference messages') messages' =
      relevant run messages → outcome answers preference messages' = run) ∧
    ∀ completions completions' later, Deliverable pending completions →
      completions.Perm completions' →
      outcome answers preference (messages ++ completions.map .completion ++ later) =
        outcome answers preference (messages ++ completions'.map .completion ++ later) := by
  intro run pending
  have hordered : (ledger run).Ordered := ordered_outcome answers preference messages
  have hsub : pending ⊆ (ledger run).started := fun op hop => (List.mem_filter.1 hop).1
  refine ⟨fun op hop => inFlight_iff_of_mem_outstanding answers preference hop,
    fun completions h => (h.started hordered hsub).length_isCurrent_le_one hordered,
    fun c hc => complete_of_not_isCurrent answers hc,
    outcome_relevant answers preference messages,
    fun kept hsub hkept => outcome_of_sublist answers preference hsub hkept,
    fun messages' hrelevant => ?_,
    fun completions completions' later h hp => ?_⟩
  · rw [← outcome_relevant answers preference messages', hrelevant]
    exact outcome_relevant answers preference messages
  · have hperm := handleAll_perm answers hordered (h.started hordered hsub) hp
    simp only [outcome_append]
    rw [hperm]

/-- A fetch that a pick supersedes is outstanding beside the pick. -/
example :
    let messages := [.call (.select (.language none "eng" [])), .call (.select (.custom []))]
    (outstanding (fun _ _ _ => .ok ()) .disabled messages).map (·.epoch) = [1, 2] ∧
      (ledger (outcome (fun _ _ _ => .ok ()) .disabled messages)).cancelled = [1] := by
  decide

end Manager

end Subtitler
