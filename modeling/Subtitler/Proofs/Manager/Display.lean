import Subtitler.Proofs.Listener.Delivery
import Subtitler.Proofs.Manager.Scene

/-!
# What listeners can tell from events

A listener that does nothing but follow the events knows what is shown: it keeps a *display*, which
every event brings up to date (`Display.tell`).

**Theorem (`received_display`).** Let a listener be registered before the manager takes its first
message. After every message its display is what the manager itself shows: the active subtitle,
whether the player renders it, the offset and the size. What anybody throws while the manager tells
an event ends the manager, so the messages that it has taken are those before.

The display agrees with the scene at the beginning, and every step of the scene keeps it so. Only
the step that moves a subtitle from one player to another takes the subtitle back in between, and
it is a single step because its last event speaks for both parts.
-/

namespace Subtitler

/-! ## Displays -/

/-- What is shown somewhere: nothing, a subtitle in the overlay, or a file that the player
renders. -/
inductive Shown
  | nothing
  | overlay (subtitle : Subtitle)
  | player (file : String)
deriving DecidableEq, Repr

namespace Shown

/-- The file that is shown. -/
def file? : Shown → Option String
  | nothing => none
  | overlay subtitle => some subtitle.file
  | player file => some file

/-- Whether the player renders what is shown. -/
def isNative : Shown → Bool
  | player _ => true
  | _ => false

end Shown

/-- What can be told from events, before any event: nothing is shown. -/
structure Display where
  shown : Shown := .nothing
  offset : Int := 0
  size : UInt32 := 28
deriving DecidableEq, Repr

namespace Display

/-- Brings a display up to date. -/
def tell (d : Display) : SubtitleEvent → Display
  | .downloading _ | .failed _ => d
  | .activated subtitle => { d with shown := .overlay subtitle }
  | .nativeActivated file => { d with shown := .player file }
  | .disabled => { d with shown := .nothing }
  | .sizeChanged size => { d with size }
  | .offsetChanged offset => { d with offset }

/-- The display of one who was told of events. -/
def ofEvents (events : List SubtitleEvent) : Display := events.foldl tell {}

/-- Hearing of an event again changes nothing. -/
theorem tell_tell (d : Display) (event : SubtitleEvent) :
    (d.tell event).tell event = d.tell event := by
  cases event <;> rfl

theorem foldl_tell_replicate (d : Display) (event : SubtitleEvent) {n : Nat} (h : n ≠ 0) :
    (List.replicate n event).foldl tell d = d.tell event := by
  induction n generalizing d with
  | zero => exact absurd rfl h
  | succ n ih =>
    rw [List.replicate_succ, List.foldl_cons]
    by_cases hn : n = 0
    · rw [hn]; rfl
    · rw [ih _ hn, tell_tell]

/-! ## Events in effects -/

/-- Brings a display up to date with all events among the effects. -/
def watch (d : Display) (effects : List Effect) : Display :=
  (effects.filterMap Effect.event?).foldl tell d

theorem watch_append (d : Display) (first rest : List Effect) :
    d.watch (first ++ rest) = (d.watch first).watch rest := by
  simp only [watch, List.filterMap_append, List.foldl_append]

/-- Effects that leave every display as it is. -/
def Silent (effects : List Effect) : Prop := ∀ d : Display, d.watch effects = d

theorem silent_nil : Silent [] := fun _ => rfl

theorem Silent.append {first rest : List Effect} (hf : Silent first) (hr : Silent rest) :
    Silent (first ++ rest) := fun d => by rw [watch_append, hf, hr]

theorem silent_of_mem {effects : List Effect} (h : ∀ effect ∈ effects, Silent [effect]) :
    Silent effects := by
  induction effects with
  | nil => exact silent_nil
  | cons effect effects ih =>
    exact (h effect List.mem_cons_self).append (ih fun e he => h e (List.mem_cons_of_mem _ he))

theorem silent_aside {effect : Effect} (h : effect.isAside = true) : Silent [effect] := by
  intro d
  cases effect with
  | notified event => cases event <;> first | rfl | cases h
  | _ => rfl

theorem silent_quiet {effects : List Effect} (h : ∀ effect ∈ effects, effect.isQuiet = true) :
    Silent effects :=
  silent_of_mem fun effect he d => by
    have hquiet := h effect he
    cases effect with
    | called player call refusal => rfl
    | logged entry => rfl
    | _ => cases hquiet

end Display

/-! ## The display of a scene -/

/-- What the rendering shows. -/
def Rendering.shown (r : Rendering) : Shown :=
  match r.active with
  | none => .nothing
  | some subtitle => if r.native then .player subtitle.file else .overlay subtitle

/-- What a scene shows. -/
def Scene.display (s : Scene) : Display := ⟨s.rendering.shown, s.rendering.offset, s.size⟩

/-- What the manager shows. -/
def Manager.display (m : Manager) : Display := ⟨m.rendering.shown, m.rendering.offset, m.size⟩

/-- The effects of a scene tell what it shows. -/
def Scene.Told (s : Scene) : Prop := Display.watch {} s.effects = s.display

theorem Scene.told_step {stop : Bool} {s t : Scene} (h : s.Step stop t) (hs : s.Told) :
    t.Told := by
  unfold Told at hs ⊢
  cases h with
  | aside h =>
    have hsilent := Display.silent_of_mem fun e he => Display.silent_aside (h e he)
    rw [Display.watch_append, hsilent, hs]
    rfl
  | resize size => rw [Display.watch_append, hs]; rfl
  | move h =>
    rw [Display.watch_append, Display.watch_append, Display.silent_quiet h.quiet, hs]
    rfl
  | hide h =>
    rw [Display.watch_append, Display.watch_append, Display.silent_quiet h.quiet, hs]
    rfl
  | close => rw [Display.watch_append, hs]; rfl
  | attach player h => exact hs
  | overlay subtitle hw hr =>
    rw [Display.watch_append, Display.watch_append, Display.watch_append,
      Display.silent_quiet hw.quiet, Display.silent_quiet hr.quiet, hs]
    rfl
  | @natively p subtitle withdrawn delays hw hp hd =>
    have htaken : Display.Silent (.called p (.subtitleFile subtitle.file) none :: delays) :=
      Display.silent_quiet (List.forall_mem_cons.2 ⟨rfl, hd.quiet⟩)
    rw [Display.watch_append, Display.watch_append, Display.watch_append,
      Display.silent_quiet hw.quiet, htaken, hs]
    rfl

/-! ## The display of a listener -/

namespace ListenerRegistry

variable {ι : Type} [DecidableEq ι] (behaviour : Behaviour ι)

/-- One who is registered follows all events, however often it is told of each. -/
theorem foldl_tell_received {registry : ListenerRegistry ι} {listener : ι}
    (h : listener ∈ registry.listeners) {events : List SubtitleEvent}
    (hthrown : (registry.notifyAll behaviour events).thrown = registry.thrown) :
    Display.ofEvents ((registry.notifyAll behaviour events).received listener) =
      events.foldl Display.tell (Display.ofEvents (registry.received listener)) := by
  induction events generalizing registry with
  | nil => rfl
  | cons event events ih =>
    have hcount : registry.listeners.count listener ≠ 0 :=
      Nat.pos_iff_ne_zero.1 (List.count_pos_iff.2 h)
    have hnow := thrown_notify_eq behaviour hthrown
    have htold : Display.ofEvents ((registry.notify behaviour event).received listener) =
        (Display.ofEvents (registry.received listener)).tell event := by
      rw [received_notify behaviour hnow, Display.ofEvents, List.foldl_append,
        Display.foldl_tell_replicate _ _ hcount, Display.ofEvents]
    rw [List.foldl_cons, ← htold]
    exact ih (mem_listeners_notify behaviour h event) (hthrown.trans hnow.symm)

end ListenerRegistry

namespace Manager

variable (answers : Answers)

theorem told_outcome (preference : Preference) (messages : List Message) :
    Display.ofEvents (outcome answers preference messages).events =
      (outcome answers preference messages).state.display :=
  scene_invariant answers (I := Scene.Told) rfl (fun _ h hs => Scene.told_step h hs) preference
    messages

/-- The display of the manager is what its snapshot says. -/
theorem display_snapshot {m : Manager}
    (hg : m.rendering.native = true → m.rendering.active.isSome = true) :
    m.display.shown.file? = m.snapshot.activeFile ∧
      m.display.shown.isNative = m.snapshot.native ∧
      m.display.offset = m.snapshot.offset ∧ m.display.size = m.snapshot.size := by
  refine ⟨?_, ?_, rfl, rfl⟩ <;>
    simp only [display, snapshot, Rendering.shown] <;>
    cases ha : m.rendering.active <;> cases hn : m.rendering.native <;>
    simp_all [Shown.file?, Shown.isNative]

/-- **A listener can tell from events alone what is shown.** Whatever messages the manager has
taken, and whoever else listens and does what, a listener that was registered from the beginning
has arrived at the display of the manager, and with it at the file, the kind of rendering, the
offset and the size of its snapshot. -/
theorem received_display {ι : Type} [DecidableEq ι] (behaviour : Behaviour ι)
    (before after : List ι) (listener : ι) (preference : Preference) (messages : List Message) :
    let run := outcome answers preference messages
    let registry : ListenerRegistry ι := { listeners := before ++ listener :: after }
    let told := registry.notifyAll behaviour run.events
    let display := Display.ofEvents (told.received listener)
    told.thrown = [] →
      display = run.state.display ∧
        display.shown.file? = run.state.snapshot.activeFile ∧
        display.shown.isNative = run.state.snapshot.native ∧
        display.offset = run.state.snapshot.offset ∧
        display.size = run.state.snapshot.size := by
  intro run registry told display hthrown
  have hmem : listener ∈ registry.listeners := by simp [registry]
  have hfold : display = Display.ofEvents run.events :=
    ListenerRegistry.foldl_tell_received behaviour hmem hthrown
  have hdisplay : display = run.state.display :=
    hfold.trans (told_outcome answers preference messages)
  have hground := grounded_outcome answers preference messages
  refine ⟨hdisplay, ?_⟩
  rw [hdisplay]
  exact display_snapshot fun hn => (hground hn).1

/-- One who listens beside others, of whom one fails every time and one registers another listener
every time, while a subtitle is put on the player and moved in time. -/
theorem received_display_beside_others :
    let behaviour : Behaviour Nat := fun told listener _ =>
      match listener with
      | 0 => ⟨[], some (.text "listener exploded")⟩
      | 2 => ⟨[told.length], none⟩
      | _ => ⟨[], none⟩
    let track : Track := .language none "eng" []
    let run := outcome (fun _ _ _ => .ok ()) (.language "eng")
      [.call (.setPlayer (some ⟨"mpv", true⟩)),
        .call (.playbackStarted ⟨"movie.mkv", none, true, some track, []⟩),
        .completion (.fetched 1 (.ok ⟨"/tmp/movie.srt", some track, []⟩)), .call (.setOffset 500)]
    let registry : ListenerRegistry Nat := { listeners := [0, 1, 2] }
    let told := registry.notifyAll behaviour run.events
    let display := Display.ofEvents (told.received 1)
    told.thrown = [] ∧ display = ⟨.player "/tmp/movie.srt", 500, 28⟩ ∧
      display = run.state.display ∧
      display.shown.file? = run.state.snapshot.activeFile ∧
      display.shown.isNative = run.state.snapshot.native ∧
      display.offset = run.state.snapshot.offset ∧
      display.size = run.state.snapshot.size :=
  ⟨by decide, by decide, received_display _ _ [0] [2] 1 _ _ (by decide)⟩

end Manager

end Subtitler
