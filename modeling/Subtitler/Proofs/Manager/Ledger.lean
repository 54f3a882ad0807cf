import Mathlib.Logic.Relation
import Subtitler.Manager.Basic

/-!
# Ledgers

A *ledger* says which operation is in flight, and which operations were ever started and cancelled.
Two things can be entered in it: an operation is launched while none is in flight, or the one in
flight is cancelled (`Ledger.Entry`). Besides, the end of the operation in flight can be received,
which takes it out of flight (`Ledger.receive`).

Three things are kept by all of this: epochs grow, and the newest is the one in flight (`Ordered`);
once an operation is out of flight, it is never cancelled any more (`Past`); and an operation that
is out of flight was cancelled or has ended (`Accounted`).
-/

namespace Subtitler

open Relation

/-! ## Ledgers -/

/-- The newest epoch, the operation in flight, and the operations started and cancelled so far. -/
structure Ledger where
  epoch : Nat := 0
  inFlight : Option InFlight := none
  started : List InFlight := []
  cancelled : List Nat := []

namespace Ledger

/-- Starts an operation. -/
def launch (l : Ledger) (operation : Operation) : Ledger :=
  let op : InFlight := ⟨l.epoch + 1, operation⟩
  { l with epoch := op.epoch, inFlight := some op, started := l.started ++ [op] }

/-- Cancels the operation in flight. -/
def cancel (l : Ledger) : Ledger :=
  { l with inFlight := none, cancelled := l.cancelled ++ (l.inFlight.map (·.epoch)).toList }

/-- Takes the operation in flight out of it. -/
def land (l : Ledger) : Ledger := { l with inFlight := none }

/-- Whether a completion is the end of the operation in flight. -/
def isCurrent (l : Ledger) (c : Completion) : Bool := l.inFlight.any c.endsOperation

/-- Takes the operation that a message ends out of flight. -/
def receive (l : Ledger) : Message → Ledger
  | .completion c => if l.isCurrent c then l.land else l
  | _ => l

/-- One thing that is entered in a ledger. -/
inductive Entry (l : Ledger) : Ledger → Prop
  | launch (operation : Operation) (h : l.inFlight = none) : Entry l (l.launch operation)
  | cancel : Entry l l.cancel

/-- Things that are entered one after the other. -/
abbrev Entries : Ledger → Ledger → Prop := ReflTransGen Entry

theorem Entries.of_eq {l l' : Ledger} (h : l = l') : Entries l l' := by
  rw [h]

theorem isCurrent_iff {l : Ledger} {c : Completion} :
    l.isCurrent c = true ↔ ∃ op, l.inFlight = some op ∧ c.endsOperation op = true :=
  Option.any_eq_true ..

theorem receive_of_isCurrent {l : Ledger} {c : Completion} (h : l.isCurrent c = true) :
    l.receive (.completion c) = l.land := if_pos h

theorem receive_of_not_isCurrent {l : Ledger} {c : Completion} (h : l.isCurrent c = false) :
    l.receive (.completion c) = l := if_neg (Bool.eq_false_iff.1 h)

theorem receive_cases (l : Ledger) (message : Message) :
    l.receive message = l ∨ l.receive message = l.land := by
  cases message with
  | completion c =>
    cases h : l.isCurrent c with
    | true => exact Or.inr (receive_of_isCurrent h)
    | false => exact Or.inl (receive_of_not_isCurrent h)
  | _ => exact Or.inl rfl

end Ledger

/-- A completion has the epoch of the operation that it ends. -/
theorem Completion.epoch_eq {c : Completion} {op : InFlight} (h : c.endsOperation op = true) :
    c.epoch = op.epoch := by
  unfold endsOperation at h
  rw [Bool.and_eq_true, beq_iff_eq] at h
  exact h.1

/-- Whether a message is the end of an operation. -/
def Message.ends : Message → InFlight → Bool
  | .completion c, op => c.endsOperation op
  | _, _ => false

/-! ## Order -/

namespace Ledger

/-- Epochs grow from start to start, the operation in flight is the last one that was started, and
it has not been cancelled. -/
structure Ordered (l : Ledger) : Prop where
  growing : l.started.Pairwise (·.epoch < ·.epoch)
  started_le : ∀ op ∈ l.started, op.epoch ≤ l.epoch
  cancelled_le : ∀ epoch ∈ l.cancelled, epoch ≤ l.epoch
  last : ∀ op, l.inFlight = some op → l.started.getLast? = some op
  fresh : ∀ op, l.inFlight = some op → op.epoch ∉ l.cancelled

theorem Ordered.mem {l : Ledger} (hl : l.Ordered) {op : InFlight} (h : l.inFlight = some op) :
    op ∈ l.started := List.mem_of_getLast? (hl.last op h)

/-- An operation is known by its epoch. -/
theorem Ordered.eq_of_epoch {l : Ledger} (hl : l.Ordered) {op op' : InFlight}
    (h : op ∈ l.started) (h' : op' ∈ l.started) (he : op.epoch = op'.epoch) : op = op' := by
  obtain ⟨i, hi, rfl⟩ := List.mem_iff_getElem.1 h
  obtain ⟨j, hj, rfl⟩ := List.mem_iff_getElem.1 h'
  have hlt := List.pairwise_iff_getElem.1 hl.growing
  rcases Nat.lt_trichotomy i j with hij | rfl | hij
  · exact absurd he (Nat.ne_of_lt (hlt i j hi hj hij))
  · rfl
  · exact absurd he (Nat.ne_of_gt (hlt j i hj hi hij))

theorem ordered_empty : Ordered {} where
  growing := .nil
  started_le := by simp
  cancelled_le := by simp
  last := by simp
  fresh := by simp

theorem Ordered.launch {l : Ledger} (hl : l.Ordered) (operation : Operation) :
    (l.launch operation).Ordered where
  growing := by
    refine List.pairwise_append.2 ⟨hl.growing, List.pairwise_singleton _ _, ?_⟩
    intro op hop op' hop'
    rw [List.mem_singleton.1 hop']
    exact Nat.lt_succ_of_le (hl.started_le op hop)
  started_le op hop := by
    rcases List.mem_append.1 hop with hop | hop
    · exact Nat.le_succ_of_le (hl.started_le op hop)
    · rw [List.mem_singleton.1 hop]
      exact Nat.le_refl _
  cancelled_le epoch h := Nat.le_succ_of_le (hl.cancelled_le epoch h)
  last op h := by
    rw [← h]
    exact List.getLast?_concat ..
  fresh op h hmem := by
    cases h
    exact Nat.not_succ_le_self _ (hl.cancelled_le _ hmem)

theorem Ordered.cancel {l : Ledger} (hl : l.Ordered) : l.cancel.Ordered where
  growing := hl.growing
  started_le := hl.started_le
  cancelled_le epoch h := by
    rcases List.mem_append.1 h with h | h
    · exact hl.cancelled_le epoch h
    · obtain ⟨op, hop, rfl⟩ : ∃ op, l.inFlight = some op ∧ op.epoch = epoch := by simpa using h
      exact hl.started_le op (hl.mem hop)
  last op h := by cases h
  fresh op h := by cases h

theorem Ordered.land {l : Ledger} (hl : l.Ordered) : l.land.Ordered where
  growing := hl.growing
  started_le := hl.started_le
  cancelled_le := hl.cancelled_le
  last op h := by cases h
  fresh op h := by cases h

theorem Ordered.receive {l : Ledger} (hl : l.Ordered) (message : Message) :
    (l.receive message).Ordered := by
  rcases l.receive_cases message with h | h <;> rw [h]
  · exact hl
  · exact hl.land

theorem Entries.ordered {l l' : Ledger} (h : Entries l l') (hl : l.Ordered) : l'.Ordered := by
  induction h with
  | refl => exact hl
  | tail _ h ih =>
    cases h with
    | launch operation _ => exact ih.launch operation
    | cancel => exact ih.cancel

/-! ## Out of flight -/

/-- An epoch whose operation is not in flight, and never will be. -/
def Past (l : Ledger) (epoch : Nat) : Prop :=
  epoch ≤ l.epoch ∧ ∀ op, l.inFlight = some op → op.epoch ≠ epoch

theorem Past.not_isCurrent {l : Ledger} {c : Completion} (h : l.Past c.epoch) :
    l.isCurrent c = false := by
  refine Bool.eq_false_iff.2 fun hc => ?_
  obtain ⟨op, hop, hends⟩ := isCurrent_iff.1 hc
  exact h.2 op hop (Completion.epoch_eq hends).symm

/-- The end of an operation that was started, if it is not the one in flight, comes too late. -/
theorem Ordered.past_of_not_isCurrent {l : Ledger} (hl : l.Ordered) {c : Completion}
    {op : InFlight} (hop : op ∈ l.started) (hends : c.endsOperation op = true)
    (h : l.isCurrent c = false) : l.Past c.epoch := by
  rw [Completion.epoch_eq hends]
  refine ⟨hl.started_le op hop, fun op' hop' he => ?_⟩
  obtain rfl : op' = op := hl.eq_of_epoch (hl.mem hop') hop he
  exact absurd (isCurrent_iff.2 ⟨op', hop', hends⟩) (Bool.eq_false_iff.1 h)

/-- The operation in flight is over when its end is received, and has not been cancelled. -/
theorem Ordered.past_land {l : Ledger} (hl : l.Ordered) {c : Completion}
    (h : l.isCurrent c = true) : l.land.Past c.epoch ∧ c.epoch ∉ l.land.cancelled := by
  obtain ⟨op, hop, hends⟩ := isCurrent_iff.1 h
  rw [Completion.epoch_eq hends]
  exact ⟨⟨hl.started_le op (hl.mem hop), fun _ h => by cases h⟩, hl.fresh op hop⟩

theorem Past.receive {l : Ledger} {epoch : Nat} (h : l.Past epoch) (message : Message) :
    (l.receive message).Past epoch ∧ (l.receive message).cancelled = l.cancelled := by
  rcases l.receive_cases message with hr | hr <;> rw [hr]
  · exact ⟨h, rfl⟩
  · exact ⟨⟨h.1, fun _ hop => by cases hop⟩, rfl⟩

/-- An operation that is out of flight stays so, and is not cancelled any more. -/
theorem Entries.past {l l' : Ledger} (h : Entries l l') {epoch : Nat} (hp : l.Past epoch) :
    l'.Past epoch ∧ (epoch ∈ l'.cancelled ↔ epoch ∈ l.cancelled) := by
  induction h with
  | refl => exact ⟨hp, Iff.rfl⟩
  | @tail m _ _ h ih =>
    obtain ⟨⟨hle, hne⟩, hmem⟩ := ih
    cases h with
    | launch operation _ =>
      refine ⟨⟨Nat.le_succ_of_le hle, fun op hop => ?_⟩, hmem⟩
      cases hop
      exact Nat.ne_of_gt (Nat.lt_succ_of_le hle)
    | cancel =>
      refine ⟨⟨hle, fun _ h => by cases h⟩, ?_⟩
      rw [← hmem]
      refine ⟨fun h => ?_, List.mem_append_left _⟩
      rcases List.mem_append.1 h with h | h
      · exact h
      · obtain ⟨op, hop, rfl⟩ : ∃ op, m.inFlight = some op ∧ op.epoch = epoch := by
          simpa using h
        exact absurd rfl (hne op hop)

/-! ## Accounts -/

/-- Every operation that was started is in flight, was cancelled, or has ended. -/
def Accounted (ended : InFlight → Prop) (l : Ledger) : Prop :=
  ∀ op ∈ l.started, l.inFlight = some op ∨ op.epoch ∈ l.cancelled ∨ ended op

theorem Accounted.receive {ended : InFlight → Prop} {l : Ledger} (hl : l.Accounted ended)
    (message : Message) :
    (l.receive message).Accounted fun op => ended op ∨ message.ends op = true := by
  have hkept : l.Accounted fun op => ended op ∨ message.ends op = true := fun op hop =>
    (hl op hop).imp_right (Or.imp_right Or.inl)
  cases message with
  | completion c =>
    cases hc : l.isCurrent c with
    | false => rwa [receive_of_not_isCurrent hc]
    | true =>
      rw [receive_of_isCurrent hc]
      obtain ⟨ended, hended, hends⟩ := isCurrent_iff.1 hc
      intro op hop
      rcases hkept op hop with h | h
      · obtain rfl : ended = op := Option.some.inj (hended.symm.trans h)
        exact Or.inr (Or.inr (Or.inr hends))
      · exact Or.inr h
  | call | bus => exact hkept

theorem Entries.accounted {ended : InFlight → Prop} {l l' : Ledger} (h : Entries l l')
    (hl : l.Accounted ended) : l'.Accounted ended := by
  induction h with
  | refl => exact hl
  | @tail m _ _ h ih =>
    intro op hop
    cases h with
    | launch operation hnone =>
      rcases List.mem_append.1 hop with hop | hop
      · rcases ih op hop with h | h
        · rw [hnone] at h
          cases h
        · exact Or.inr h
      · rw [List.mem_singleton.1 hop]
        exact Or.inl rfl
    | cancel =>
      refine Or.inr ?_
      rcases ih op hop with h | h | h
      · exact Or.inl (List.mem_append_right _ (by simp [h]))
      · exact Or.inl (List.mem_append_left _ h)
      · exact Or.inr h

end Ledger

end Subtitler
