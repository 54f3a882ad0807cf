import Subtitler.Proofs.Manager.Scene

/-!
# Replacing the player

When another player is attached, or none, the active subtitle moves on to it: it is taken from the
previous player, if that one renders it, and given to the next one. Nothing else is to notice.

* `Tells`: what a part of a run says to players and listeners, which adds up (`Tells.trans`).
* `withdrawals`, `offers`, `announcement`: the calls and the event of a swap.
* `swap_setPlayer`: these are all calls and events, and the state is kept but for the player and
  the native flag.

**Theorem (`outcome_setPlayer`).** This holds whatever the manager has done before.
-/

namespace Subtitler

/-! ## What is said -/

/-- Between two moments of a run, players get just these calls and listeners just these events. All
else that is done is writing to the log. -/
def Tells (before after : List Effect) (calls : List (AttachedPlayer × PlayerCall))
    (events : List SubtitleEvent) : Prop :=
  ∃ trace, after = before ++ trace ∧
    (∀ effect ∈ trace, effect.isQuiet = true ∨ ∃ event, effect = .notified event) ∧
    trace.filterMap Effect.call? = calls ∧ trace.filterMap Effect.event? = events

theorem Tells.refl (effects : List Effect) : Tells effects effects [] [] :=
  ⟨[], by simp, by simp, rfl, rfl⟩

theorem Tells.trans {first second third : List Effect}
    {calls moreCalls : List (AttachedPlayer × PlayerCall)} {events moreEvents : List SubtitleEvent}
    (h : Tells first second calls events) (hmore : Tells second third moreCalls moreEvents) :
    Tells first third (calls ++ moreCalls) (events ++ moreEvents) := by
  obtain ⟨trace, rfl, hmem, rfl, rfl⟩ := h
  obtain ⟨rest, rfl, hrest, rfl, rfl⟩ := hmore
  refine ⟨trace ++ rest, List.append_assoc _ _ _, ?_, List.filterMap_append, List.filterMap_append⟩
  intro effect he
  exact (List.mem_append.1 he).elim (hmem effect) (hrest effect)

theorem Tells.of_call (effects : List Effect) (player : AttachedPlayer) (call : PlayerCall)
    (refusal : Option PlayerError) :
    Tells effects (effects ++ [.called player call refusal]) [(player, call)] [] :=
  ⟨_, rfl, by simp [Effect.isQuiet], rfl, rfl⟩

theorem Tells.of_event (effects : List Effect) (event : SubtitleEvent) :
    Tells effects (effects ++ [.notified event]) [] [event] :=
  ⟨_, rfl, by simp, rfl, rfl⟩

theorem Tells.of_log (effects : List Effect) {log : List Effect}
    (h : ∀ effect ∈ log, ∃ entry, effect = .logged entry) :
    Tells effects (effects ++ log) [] [] := by
  refine ⟨log, rfl, ?_, List.filterMap_eq_nil_iff.2 ?_, List.filterMap_eq_nil_iff.2 ?_⟩
  all_goals
    intro effect he
    obtain ⟨entry, rfl⟩ := h effect he
  · exact Or.inl rfl
  · rfl
  · rfl

/-- The calls made so far, when something is said. -/
theorem Tells.calls {before after : List Effect} {calls : List (AttachedPlayer × PlayerCall)}
    {events : List SubtitleEvent} (h : Tells before after calls events) :
    after.filterMap Effect.call? = before.filterMap Effect.call? ++ calls := by
  obtain ⟨trace, rfl, -, rfl, -⟩ := h
  exact List.filterMap_append

theorem CallTrace.tells {player : AttachedPlayer} {call : PlayerCall} {trace : List Effect}
    (h : CallTrace player call trace) (effects : List Effect) :
    Tells effects (effects ++ trace) [(player, call)] [] := by
  obtain ⟨refusal, log, rfl, hlog⟩ := h
  have hcall := Tells.of_call effects player call refusal
  simpa using hcall.trans (Tells.of_log _ hlog)

namespace Rendering

variable (answers : Answers)

/-! ## Taking the subtitle from a player -/

/-- The calls that take the subtitle from `previous`, when it makes way for `player`. -/
def withdrawals (previous player : Option AttachedPlayer) (rendering : Rendering) :
    List (AttachedPlayer × PlayerCall) :=
  match previous.filter fun previous => some previous != player with
  | some previous => if rendering.native then [(previous, .clearSubtitleFile)] else []
  | none => []

theorem withdrawals_of_ne {previous : AttachedPlayer} {player : Option AttachedPlayer}
    (h : some previous ≠ player) (rendering : Rendering) :
    withdrawals (some previous) player rendering =
      if rendering.native then [(previous, .clearSubtitleFile)] else [] := by
  have hne : (some previous).filter (fun previous => some previous != player) = some previous :=
    Option.filter_eq_some_iff.2 ⟨rfl, by simpa using h⟩
  simp [withdrawals, hne]

theorem mem_withdrawals {previous player : Option AttachedPlayer} {rendering : Rendering}
    {call : AttachedPlayer × PlayerCall} (h : call ∈ withdrawals previous player rendering) :
    call.2 = .clearSubtitleFile := by
  unfold withdrawals at h
  split at h
  · split_ifs at h
    · rw [List.mem_singleton.1 h]
    · cases h
  · cases h

theorem detach_tells (player : AttachedPlayer) (run : Run Rendering) :
    Tells run.effects (detach answers player run).effects
      (if run.state.native then [(player, .clearSubtitleFile)] else []) [] := by
  obtain ⟨trace, htrace, heq⟩ := detach_eq answers player run
  rw [heq]
  rcases htrace with ⟨hnone, rfl⟩ | ⟨p, hp, hn, htrace⟩
  · have hn : run.state.native = false := by simpa using hnone
    simpa [hn] using Tells.refl run.effects
  · cases hp
    simpa [hn] using htrace.tells run.effects

/-! ## Giving it to a player -/

/-- The calls with which an active subtitle goes to a player that renders files, when `rendering` is
what comes of it. A player that has taken the file gets the offset too. -/
def offers (player : Option AttachedPlayer) (rendering : Rendering) :
    List (AttachedPlayer × PlayerCall) :=
  match rendering.active, player.filter (·.rendersFiles) with
  | some subtitle, some p =>
    (p, .subtitleFile subtitle.file) ::
      if rendering.native && rendering.offset != 0 then [(p, .subtitleDelay rendering.offset)]
      else []
  | _, _ => []

theorem mem_offers {player : Option AttachedPlayer} {rendering : Rendering}
    {call : AttachedPlayer × PlayerCall} (h : call ∈ offers player rendering) :
    player = some call.1 ∧
      ((∃ file, call.2 = .subtitleFile file) ∨ ∃ delay, call.2 = .subtitleDelay delay) := by
  unfold offers at h
  split at h
  next subtitle p _ hp =>
    have hplayer : player = some p := (Option.filter_eq_some_iff.1 hp).1
    rcases List.mem_cons.1 h with rfl | h
    · exact ⟨hplayer, Or.inl ⟨_, rfl⟩⟩
    · split_ifs at h
      · rw [List.mem_singleton.1 h]
        exact ⟨hplayer, Or.inr ⟨_, rfl⟩⟩
      · cases h
  next => cases h

/-- The event that says where a subtitle is shown. -/
def announcement (native : Bool) (subtitle : Subtitle) : SubtitleEvent :=
  if native then .nativeActivated subtitle.file else .activated subtitle

theorem Delays.tells {p : AttachedPlayer} {offset : Int} {trace : List Effect}
    (h : Delays p offset trace) (effects : List Effect) :
    Tells effects (effects ++ trace)
      (if offset != 0 then [(p, .subtitleDelay offset)] else []) [] := by
  unfold Delays at h
  split_ifs at h with ho
  · simpa [ho, h] using Tells.refl effects
  · simpa [ho] using h.tells effects

theorem filter_rendersFiles {p : AttachedPlayer} (h : p.rendersFiles = true) :
    (some p).filter (·.rendersFiles) = some p := Option.filter_eq_some_iff.2 ⟨rfl, h⟩

theorem Refused.tells {player : Option AttachedPlayer} {file : String} {trace : List Effect}
    (h : Refused player file trace) (effects : List Effect) :
    Tells effects (effects ++ trace)
      ((player.filter (·.rendersFiles)).map fun p => (p, PlayerCall.subtitleFile file)).toList
      [] := by
  rcases h with ⟨hnone, rfl⟩ | ⟨p, cause, entry, rfl, hr, rfl⟩
  · simpa [hnone] using Tells.refl effects
  · have htrace : CallTrace p (.subtitleFile file)
        [.called p (.subtitleFile file) (some cause), .logged entry] :=
      ⟨some cause, [.logged entry], rfl, by simp⟩
    simpa [filter_rendersFiles hr] using htrace.tells effects

/-- Showing a subtitle changes nothing else, and says so once. -/
theorem activate_tells (player : Option AttachedPlayer) (subtitle : Subtitle)
    (run : Run Rendering) :
    let shown := activate answers player subtitle run
    shown.state = { run.state with active := some subtitle, native := shown.state.native } ∧
      Tells run.effects shown.effects (offers player shown.state)
        [announcement shown.state.native subtitle] := by
  intro shown
  rcases activate_cases answers player subtitle run with
    ⟨trace, htrace, heq⟩ | ⟨p, trace, rfl, hr, htrace, heq⟩
  · rw [show shown = _ from heq]
    refine ⟨rfl, ?_⟩
    have htold := (htrace.tells run.effects).trans (Tells.of_event _ (.activated subtitle))
    cases hp : player.filter (·.rendersFiles) <;>
      simpa [offers, announcement, hp] using htold
  · rw [show shown = _ from heq]
    refine ⟨rfl, ?_⟩
    have hfile := Tells.of_call run.effects p (.subtitleFile subtitle.file) none
    have htold := (hfile.trans (htrace.tells _)).trans
      (Tells.of_event _ (.nativeActivated subtitle.file))
    simpa [offers, announcement, filter_rendersFiles hr] using htold

theorem native_offer (p : AttachedPlayer) (subtitle : Subtitle) {run : Run Rendering}
    (h : run.state.native = false) :
    (offer answers p subtitle run).state.native = true ↔
      answers run.calls p (.subtitleFile subtitle.file) = .ok () := by
  unfold offer Run.call
  cases answers run.calls p (.subtitleFile subtitle.file) with
  | error cause => simp [Run.log, h]
  | ok _ =>
    dsimp only
    split_ifs <;> simp [forwardOffset]

/-- A subtitle is rendered natively if the player renders files and takes this one. -/
theorem native_activate (player : Option AttachedPlayer) (subtitle : Subtitle)
    (run : Run Rendering) :
    (activate answers player subtitle run).state.native = true ↔
      ∃ p, player = some p ∧ p.rendersFiles = true ∧
        answers run.calls p (.subtitleFile subtitle.file) = .ok () := by
  unfold activate
  cases hp : player.filter (·.rendersFiles) with
  | none =>
    have hnone : ∀ p, player = some p → p.rendersFiles = false := by simpa using hp
    simp only [Run.notify, Run.state_emit, Run.state_modify, Bool.false_eq_true, false_iff]
    rintro ⟨p, hplayer, hr, -⟩
    exact absurd ((hnone p hplayer).symm.trans hr) (by decide)
  | some p =>
    obtain ⟨rfl, hr⟩ := Option.filter_eq_some_iff.1 hp
    have hoffer : (offer answers p subtitle (run.modify ({ · with native := false }))).state.native
        = true ↔ answers run.calls p (.subtitleFile subtitle.file) = .ok () :=
      native_offer answers p subtitle rfl
    simpa [Run.notify, hr] using hoffer

end Rendering

namespace Manager

open Rendering

variable (answers : Answers)

/-! ## The swap -/

/-- What becomes of a run when a player is attached, with all calls and events. -/
structure Swap (player : Option AttachedPlayer) (before after : Run Manager)
    (calls : List (AttachedPlayer × PlayerCall)) (events : List SubtitleEvent) : Prop where
  /-- The session with its operation in flight, the active subtitle, the offset, the size and the
  preference are kept. -/
  state_eq : after.state =
    { before.state with
      player
      rendering := { before.state.rendering with native := after.state.rendering.native } }
  /-- Nothing but the log comes on top of the calls and events: no fetch and no pick is started or
  given up. -/
  tells : Tells before.effects after.effects calls events
  /-- Players are called in this order, the previous one first. -/
  calls_eq : calls =
    withdrawals before.state.player player before.state.rendering ++
      offers player after.state.rendering
  /-- There is one event if somebody has to show the subtitle from now on, the next player or the
  listeners in place of the previous one. -/
  events_eq : events =
    match before.state.rendering.active with
    | some subtitle =>
      if player.isSome || before.state.rendering.native then
        [announcement after.state.rendering.native subtitle]
      else []
    | none => []
  /-- The next player renders the subtitle if it can and accepts the file when it is called. -/
  native_iff : after.state.rendering.native = true ↔
    ∃ subtitle p, before.state.rendering.active = some subtitle ∧ player = some p ∧
      p.rendersFiles = true ∧
      answers (before.calls ++ withdrawals before.state.player player before.state.rendering) p
        (.subtitleFile subtitle.file) = .ok ()

namespace Swap

variable {answers : Answers} {player : Option AttachedPlayer} {before after : Run Manager}
  {calls : List (AttachedPlayer × PlayerCall)} {events : List SubtitleEvent}

/-- Nobody is paused or resumed by a swap. -/
theorem unpaused (h : Swap answers player before after calls events) (p : AttachedPlayer) :
    (p, .pause) ∉ calls ∧ (p, .resume) ∉ calls := by
  have hmem : ∀ call, (p, call) ∈ calls → call = .clearSubtitleFile ∨
      (∃ file, call = .subtitleFile file) ∨ ∃ delay, call = .subtitleDelay delay := by
    intro call hcall
    rw [h.calls_eq] at hcall
    exact (List.mem_append.1 hcall).imp mem_withdrawals fun hoffer => (mem_offers hoffer).2
  exact ⟨fun hp => by simpa using hmem _ hp, fun hp => by simpa using hmem _ hp⟩

/-- A player that makes way for another one gets one call if it renders the subtitle, and none
otherwise. -/
theorem cleared (h : Swap answers player before after calls events) {previous : AttachedPlayer}
    (hprevious : before.state.player = some previous) (hne : some previous ≠ player) :
    calls.filter (·.1 = previous) =
      if before.state.rendering.native then [(previous, .clearSubtitleFile)] else [] := by
  have hoffers : (offers player after.state.rendering).filter (·.1 = previous) = [] := by
    refine List.filter_eq_nil_iff.2 fun call hcall heq => hne ?_
    rw [(mem_offers hcall).1, of_decide_eq_true heq]
  rw [h.calls_eq, List.filter_append, hoffers, hprevious, withdrawals_of_ne hne]
  split_ifs <;> simp

end Swap

/-! ## Attaching a player -/

/-- The run when the previous player is gone and the next one is there, before the subtitle is shown
again. -/
abbrev attached (player : Option AttachedPlayer) (run : Run Manager) (native : Bool)
    (effects : List Effect) : Run Manager :=
  ⟨{ run.state with player, rendering := { run.state.rendering with native } }, effects⟩

/-- The previous player is relieved of the subtitle first. Then, if there is a subtitle, it is shown
again, unless it was in the overlay and there is no player to offer it to. -/
theorem setPlayer_cases (player : Option AttachedPlayer) {run : Run Manager}
    (hg : (scene run).Grounded) :
    ∃ native effects, (native = true → run.state.rendering.native = true) ∧
      Tells run.effects effects (withdrawals run.state.player player run.state.rendering) [] ∧
      setPlayer answers player run =
        if run.state.rendering.active.isSome && (player.isSome || run.state.rendering.native) then
          render (Rendering.redispatch answers player) (attached player run native effects)
        else attached player run native effects := by
  unfold setPlayer withdrawals
  cases hr : run.state.player.filter fun previous => some previous != player with
  | none =>
    refine ⟨run.state.rendering.native, run.effects, id, Tells.refl _, ?_⟩
    -- A subtitle is rendered natively on the attached player only, and that one stays.
    have hcond : (player.isSome || run.state.rendering.native) = player.isSome := by
      cases hn : run.state.rendering.native with
      | false => simp
      | true =>
        obtain ⟨-, p, hp, -⟩ := hg hn
        have hp : run.state.player = some p := hp
        have hsame : some p = player := by simpa [hp] using hr
        simp [← hsame]
    simp [Run.modify, hcond]
  | some previous =>
    have htold := Rendering.detach_tells answers previous ⟨run.state.rendering, run.effects⟩
    refine ⟨false, _, by simp, htold, ?_⟩
    have hdetach : render (Rendering.detach answers previous) (run.modify ({ · with player })) =
        ⟨{ run.state with player, rendering := { run.state.rendering with native := false } },
          (Rendering.detach answers previous ⟨run.state.rendering, run.effects⟩).effects⟩ := by
      simp [render, Run.within, Run.modify]
    simp [hdetach]

/-- With nothing to show, or nobody to show it to, the swap is over. -/
theorem swap_attached {player : Option AttachedPlayer} {run : Run Manager} {effects : List Effect}
    (htold : Tells run.effects effects (withdrawals run.state.player player run.state.rendering) [])
    (h : run.state.rendering.active = none ∨
      player = none ∧ run.state.rendering.native = false) :
    Swap answers player run (attached player run false effects)
      (withdrawals run.state.player player run.state.rendering) [] where
  state_eq := rfl
  tells := htold
  calls_eq := by
    rcases h with ha | ⟨rfl, -⟩
    · simp [offers, ha]
    · simp [offers]
  events_eq := by
    rcases h with ha | ⟨rfl, hn⟩
    · simp [ha]
    · cases run.state.rendering.active <;> simp [hn]
  native_iff := by
    simp only [Bool.false_eq_true, false_iff]
    rintro ⟨subtitle, p, hactive, hplayer, -⟩
    rcases h with ha | ⟨hnone, -⟩
    · exact absurd (ha.symm.trans hactive) (by simp)
    · exact absurd (hnone.symm.trans hplayer) (by simp)

/-- Otherwise the subtitle is shown again. -/
theorem swap_activate {player : Option AttachedPlayer} {run : Run Manager} {subtitle : Subtitle}
    {native : Bool} {effects : List Effect}
    (htold : Tells run.effects effects (withdrawals run.state.player player run.state.rendering) [])
    (ha : run.state.rendering.active = some subtitle)
    (hp : (player.isSome || run.state.rendering.native) = true) :
    ∃ calls events, Swap answers player run
      (render (Rendering.activate answers player subtitle) (attached player run native effects))
      calls events := by
  set shown : Run Rendering := ⟨{ run.state.rendering with native }, effects⟩ with hshown
  obtain ⟨hstate, hevent⟩ := activate_tells answers player subtitle shown
  have hcalls : shown.calls =
      run.calls ++ withdrawals run.state.player player run.state.rendering := htold.calls
  refine ⟨_, _, ?_, htold.trans hevent, rfl, ?_, ?_⟩
  · change { run.state with
      player, rendering := (activate answers player subtitle shown).state } = _
    rw [hstate, ← ha]
    rfl
  · simp [ha, hp, render, Run.within, hshown]
  · refine (native_activate answers player subtitle shown).trans ?_
    simp [hcalls, ha]

/-- **Attaching a player moves the active subtitle, and nothing else.** -/
theorem swap_setPlayer (player : Option AttachedPlayer) {run : Run Manager}
    (hg : (scene run).Grounded) :
    ∃ calls events, Swap answers player run (setPlayer answers player run) calls events := by
  obtain ⟨native, effects, hnative, htold, heq⟩ := setPlayer_cases answers player hg
  rw [heq]
  split
  next h =>
    obtain ⟨hactive, hp⟩ := Bool.and_eq_true_iff.1 h
    obtain ⟨subtitle, ha⟩ := Option.isSome_iff_exists.1 hactive
    have ha' : (attached player run native effects).state.rendering.active = some subtitle := ha
    rw [render_redispatch answers player ha']
    exact swap_activate answers htold ha hp
  next h =>
    have hquiet : run.state.rendering.active = none ∨
        player = none ∧ run.state.rendering.native = false := by
      cases ha : run.state.rendering.active with
      | none => exact Or.inl rfl
      | some subtitle => exact Or.inr (by simpa [ha] using h)
    have hn : run.state.rendering.native = false := by
      refine Bool.eq_false_iff.2 fun hn => ?_
      have hactive : run.state.rendering.active.isSome = true := (hg hn).1
      simp [hactive, hn] at h
    obtain rfl : native = false := Bool.eq_false_iff.2 fun h => absurd (hnative h) (by simp [hn])
    exact ⟨_, _, swap_attached answers htold hquiet⟩

/-- **A swap disturbs nothing else**, whatever the manager has done before and however players
answer. -/
theorem outcome_setPlayer (preference : Preference) (messages : List Message)
    (player : Option AttachedPlayer) :
    let before := outcome answers preference messages
    let after := outcome answers preference (messages ++ [.call (.setPlayer player)])
    ∃ calls events, Swap answers player before after calls events ∧
      (∀ p, (p, .pause) ∉ calls ∧ (p, .resume) ∉ calls) ∧
      ∀ previous, before.state.player = some previous → some previous ≠ player →
        calls.filter (·.1 = previous) =
          if before.state.rendering.native then [(previous, .clearSubtitleFile)] else [] := by
  intro before after
  obtain ⟨calls, events, hswap⟩ :=
    swap_setPlayer answers player (grounded_outcome answers preference messages)
  have hafter : after = setPlayer answers player before :=
    outcome_concat answers preference messages _
  rw [← hafter] at hswap
  exact ⟨calls, events, hswap, hswap.unpaused, fun _ => hswap.cleared⟩

end Manager

end Subtitler
