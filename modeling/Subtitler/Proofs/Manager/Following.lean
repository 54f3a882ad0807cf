import Subtitler.Proofs.Manager.Forwarding

/-!
# Following the settings

A manager that follows a store is told of every change of the language and of the size. Three things
happen on the way, each at a time of its own: the store takes over new settings, the announcements
of the change are sent, one by one, and the forwarder reads them and turns them into calls. Here a
list of *happenings* is any way in which updates, made one after the other or at the same time, the
forwarder and the manager can have their turns.

**Theorem (`follows_store`).** When all announcements are sent, all that can be read is read, and no
call waits, the manager agrees with the store on the language if and only if the last announcement
of the language that was read says the same as the last one that was due; and so for the size. This
is so, in particular, if updates send their announcements in the order in which the store has taken
them over, and the forwarder does not fall so far behind that announcements are dropped.

Without the one or the other the manager may keep an old language or size for good, though each
announcement tells all settings (`keeps_dropped_language`, `keeps_overtaken_language`).
-/

namespace Subtitler

/-! ## Happenings -/

/-- One thing that happens while a manager follows a store: an update is committed, the update of a
number sends its next announcement, the forwarder reads one, a message arrives that does not ask for
another preference or size, or the manager takes a message. -/
inductive Happening
  | commit (tree : FileTree) (settings : SubtitleSettings)
  | announce (number : Nat)
  | forward
  | arrival (message : Message) (h : message.asksSettings = false)
  | take

/-- A hub and the store that its manager follows. For every update that was committed, `unsent` is
what it has yet to announce. All that was ever to be announced is in `due`, in the order of the
commits, and all that the forwarder has read is in `read`. -/
structure Following where
  hub : Hub
  store : SettingsStore
  unsent : List (List Announcement) := []
  due : List Announcement := []
  read : List Announcement := []

namespace Following

variable (answers : Answers)

/-- A manager is started with the preference of a store, follows it, and is told its size. -/
def start (store : SettingsStore) (capacity : Nat) : Following where
  hub := (Hub.start store.preference capacity).follow.send
    (.setSize store.settings.subtitles.fontSize)
  store

/-- What happens. -/
def step (f : Following) : Happening → Following
  | .commit tree settings =>
    let update := f.store.update tree settings
    { f with
      store := update.store
      unsent := f.unsent ++ [update.announcements]
      due := f.due ++ update.announcements }
  | .announce number =>
    match f.unsent[number]? with
    | some (a :: rest) =>
      { f with hub := f.hub.announce [a], unsent := f.unsent.set number rest }
    | _ => f
  | .forward =>
    { f with hub := f.hub.forwardOne, read := f.read ++ f.hub.nextAnnouncement?.toList }
  | .arrival message _ => { f with hub := f.hub.receive message }
  | .take => { f with hub := f.hub.serve answers 1 }

/-- What comes of happenings, one after the other. -/
def after (store : SettingsStore) (capacity : Nat) (happenings : List Happening) : Following :=
  happenings.foldl (step answers) (start store capacity)

/-- All announcements are sent, all that can be read is read, and no call waits. -/
def Quiet (f : Following) : Prop :=
  (∀ announcements ∈ f.unsent, announcements = []) ∧ f.hub.nextAnnouncement? = none ∧
    f.hub.calls = []

instance (f : Following) : Decidable f.Quiet := inferInstanceAs (Decidable (_ ∧ _ ∧ _))

/-- An announcement is sent when all are that have been due longer. -/
def InTurn (f : Following) : Happening → Prop
  | .announce number => ∀ announcements ∈ f.unsent.take number, announcements = []
  | _ => True

/-- The forwarder reads when nothing has been dropped that it has not read. -/
def InTime (f : Following) : Happening → Prop
  | .forward => ∀ position ∈ f.hub.forwarded, f.hub.announcements.missed position = 0
  | _ => True

instance (f : Following) : DecidablePred f.InTurn
  | .announce number =>
    inferInstanceAs (Decidable (∀ announcements ∈ f.unsent.take number, announcements = []))
  | .commit _ _ | .forward | .arrival _ _ | .take => isTrue trivial

instance (f : Following) : DecidablePred f.InTime
  | .forward => inferInstanceAs
    (Decidable (∀ position ∈ f.hub.forwarded, f.hub.announcements.missed position = 0))
  | .commit _ _ | .announce _ | .arrival _ _ | .take => isTrue trivial

/-- Every happening is as said. -/
def Throughout (P : Following → Happening → Prop) : Following → List Happening → Prop
  | _, [] => True
  | f, happening :: rest => P f happening ∧ Throughout P (step answers f happening) rest

instance decidableThroughout (P : Following → Happening → Prop) [∀ f, DecidablePred (P f)] :
    ∀ (f : Following) (happenings : List Happening), Decidable (Throughout answers P f happenings)
  | _, [] => isTrue trivial
  | f, happening :: rest =>
    have := decidableThroughout P (step answers f happening) rest
    inferInstanceAs (Decidable (P f happening ∧ Throughout answers P _ rest))

/-! ### One happening -/

variable {α : Type} (w : Followed α)

/-- Whatever happens, what is to come follows what is read. -/
theorem coming_step {value : α} {f : Following} (h : w.coming f.hub = w.latest value f.read)
    (happening : Happening) :
    w.coming (step answers f happening).hub = w.latest value (step answers f happening).read := by
  cases happening with
  | commit => exact h
  | announce number =>
    simp only [step]
    split
    · rw [w.coming_announce, h]
    · exact h
  | forward =>
    simp only [step]
    rw [w.coming_forwardOne, w.latest_append, h]
  | arrival message hmessage => exact (w.coming_receive f.hub hmessage).trans h
  | take => exact (w.coming_serve answers f.hub).trans h

/-- Whatever happens, the store follows what is due. -/
theorem stated_step {value : α} {f : Following}
    (h : w.stated f.store.settings.subtitles = w.latest value f.due) (happening : Happening) :
    w.stated (step answers f happening).store.settings.subtitles =
      w.latest value (step answers f happening).due := by
  cases happening with
  | commit tree settings =>
    simp only [step]
    rw [f.store.stated_update w, w.latest_append, h]
  | announce number =>
    simp only [step]
    split <;> exact h
  | forward | arrival | take => exact h

/-- What comes first in lists of which those before a number are empty. -/
theorem flatten_set {xss : List (List Announcement)} {number : Nat} {a : Announcement}
    {rest : List Announcement} (hget : xss[number]? = some (a :: rest))
    (hempty : ∀ xs ∈ xss.take number, xs = []) :
    xss.flatten = a :: (xss.set number rest).flatten := by
  induction xss generalizing number with
  | nil => simp at hget
  | cons xs xss ih =>
    cases number with
    | zero =>
      obtain rfl := Option.some.inj hget
      rfl
    | succ number =>
      rw [List.take_succ_cons] at hempty
      obtain ⟨rfl, hrest⟩ := List.forall_mem_cons.1 hempty
      exact ih hget hrest

/-- The forwarder has read all that was sent up to its position, and what is due but unsent comes
after what is sent. -/
structure Abreast (f : Following) : Prop where
  capacity : 0 < f.hub.announcements.capacity
  due : f.due = f.hub.announcements.sent ++ f.unsent.flatten
  read : ∃ position, f.hub.forwarded = some position ∧ position ≤ f.hub.announcements.finish ∧
    f.read = f.hub.announcements.sent.take position

theorem abreast_start (store : SettingsStore) (capacity : Nat) :
    (start store capacity).Abreast :=
  ⟨Nat.pos_of_isPowerOfTwo (Nat.isPowerOfTwo_nextPowerOfTwo 32), rfl, 0, rfl,
    Nat.zero_le _, rfl⟩

theorem Abreast.step {f : Following} (h : f.Abreast) {happening : Happening}
    (hturn : f.InTurn happening) (htime : f.InTime happening) :
    (step answers f happening).Abreast := by
  obtain ⟨hcapacity, hdue, position, hforwarded, hle, hread⟩ := h
  -- Only announcements and what is read of them count.
  have hbeside {hub : Hub} (hfollowed : hub.followed = f.hub.followed) :
      Abreast { f with hub } := by
    obtain ⟨hannouncements, hposition⟩ := Prod.mk.inj hfollowed
    refine ⟨?_, ?_, position, hposition.trans hforwarded, ?_, ?_⟩ <;>
      dsimp only <;> rwa [hannouncements]
  cases happening with
  | commit tree settings =>
    exact ⟨hcapacity, by simp [Following.step, hdue], position, hforwarded, hle, hread⟩
  | announce number =>
    cases hget : f.unsent[number]? with
    | none => simpa only [Following.step, hget] using hbeside rfl
    | some announcements =>
      cases announcements with
      | nil => simpa only [Following.step, hget] using hbeside rfl
      | cons a rest =>
        simp only [Following.step, hget]
        obtain ⟨hsent, hposition⟩ := Prod.mk.inj (f.hub.followed_announce [a])
        have hsent : (f.hub.announce [a]).announcements = f.hub.announcements.send a := hsent
        refine ⟨?_, ?_, position, hposition.trans hforwarded, ?_, ?_⟩
        · rw [hsent]
          exact hcapacity
        · rw [hsent, hdue, flatten_set hget hturn]
          simp [Broadcast.send]
        · rw [hsent, Broadcast.finish_send]
          exact Nat.le_succ_of_le hle
        · rw [hsent, hread]
          exact (List.take_append_of_le_length hle).symm
  | forward =>
    have hmissed := htime position (Option.mem_def.2 hforwarded)
    obtain ⟨hnext, hfollowed⟩ := Hub.followed_forwardOne hforwarded hmissed
    obtain ⟨hannouncements, hposition⟩ := Prod.mk.inj hfollowed
    have hannouncements : f.hub.forwardOne.announcements = f.hub.announcements := hannouncements
    have hone : (Following.step answers f .forward).hub.announcements = f.hub.announcements :=
      hannouncements
    rw [hnext] at hposition
    refine ⟨by rwa [hone], by rwa [hone], _, hposition, ?_, ?_⟩
    · rw [hone]
      cases hsent : f.hub.announcements.sent[position]? with
      | none => exact hle
      | some a => exact (List.getElem?_eq_some_iff.1 hsent).1
    · rw [hone, Following.step, hread, hnext]
      cases hsent : f.hub.announcements.sent[position]? with
      | none => exact List.append_nil _
      | some a =>
        dsimp only [Option.toList_some, List.length_singleton]
        rw [List.take_add_one, hsent]
        rfl
  | arrival message => exact hbeside (f.hub.followed_receive message)
  | take => exact hbeside (f.hub.followed_serve answers)

/-! ### Many happenings -/

variable (store : SettingsStore) (capacity : Nat) (happenings : List Happening)

theorem after_concat (happening : Happening) :
    after answers store capacity (happenings ++ [happening]) =
      step answers (after answers store capacity happenings) happening := List.foldl_concat ..

/-- What is to come follows what is read, and the store follows what is due. -/
theorem followed_after
    (hstart : w.coming (start store capacity).hub = w.stated store.settings.subtitles) :
    w.coming (after answers store capacity happenings).hub =
        w.latest (w.stated store.settings.subtitles)
          (after answers store capacity happenings).read ∧
      w.stated (after answers store capacity happenings).store.settings.subtitles =
        w.latest (w.stated store.settings.subtitles)
          (after answers store capacity happenings).due := by
  induction happenings using List.reverseRecOn with
  | nil => exact ⟨hstart, rfl⟩
  | append_singleton happenings happening ih =>
    rw [after_concat]
    exact ⟨coming_step answers w ih.1 happening, stated_step answers w ih.2 happening⟩

/-- When all is quiet, the last announcement that was read and the last one that was due decide. -/
theorem agrees_iff
    (hstart : w.coming (start store capacity).hub = w.stated store.settings.subtitles)
    (hquiet : (after answers store capacity happenings).Quiet) :
    w.held (after answers store capacity happenings).hub.run.state =
        w.stated (after answers store capacity happenings).store.settings.subtitles ↔
      w.latest (w.stated store.settings.subtitles)
          (after answers store capacity happenings).read =
        w.latest (w.stated store.settings.subtitles)
          (after answers store capacity happenings).due := by
  obtain ⟨hcoming, hstated⟩ := followed_after answers w store capacity happenings hstart
  have hheld : w.coming (after answers store capacity happenings).hub =
      w.held (after answers store capacity happenings).hub.run.state := by
    rw [Followed.coming, hquiet.2.2, List.foldl_nil]
  rw [← hheld, hcoming, hstated]

theorem abreast_foldl {f : Following} (h : f.Abreast)
    (hturn : Throughout answers InTurn f happenings)
    (htime : Throughout answers InTime f happenings) :
    (happenings.foldl (step answers) f).Abreast := by
  induction happenings generalizing f with
  | nil => exact h
  | cons happening rest ih => exact ih (h.step answers hturn.1 htime.1) hturn.2 htime.2

/-- All that is due is read when all is quiet and every happening was in turn and in time. -/
theorem Abreast.read_eq_due {f : Following} (h : f.Abreast) (hquiet : f.Quiet) :
    f.read = f.due := by
  obtain ⟨hcapacity, hdue, position, hforwarded, hle, hread⟩ := h
  obtain ⟨hunsent, hnext, -⟩ := hquiet
  have hunread : f.hub.announcements.unread position = [] := by
    simpa [Hub.nextAnnouncement?, hforwarded] using hnext
  have hall : f.hub.announcements.sent.length ≤ position :=
    Broadcast.finish_le_of_unread_nil hcapacity hunread
  rw [hread, hdue, List.take_of_length_le hall, List.flatten_eq_nil_iff.2 hunsent,
    List.append_nil]

/-- **The manager follows the store** if the last announcements that were read say the same as the
last ones that were due, and only then. They do so if all announcements are sent in turn and read in
time. -/
theorem follows_store (hquiet : (after answers store capacity happenings).Quiet) :
    let f := after answers store capacity happenings
    (f.hub.run.state.preference = f.store.preference ↔
      Followed.preference.latest store.preference f.read =
        Followed.preference.latest store.preference f.due) ∧
    (f.hub.run.state.size = f.store.settings.subtitles.fontSize ↔
      Followed.size.latest store.settings.subtitles.fontSize f.read =
        Followed.size.latest store.settings.subtitles.fontSize f.due) ∧
    (Throughout answers InTurn (start store capacity) happenings →
      Throughout answers InTime (start store capacity) happenings →
        f.hub.run.state.preference = f.store.preference ∧
          f.hub.run.state.size = f.store.settings.subtitles.fontSize) := by
  intro f
  have hpreference := agrees_iff answers .preference store capacity happenings rfl hquiet
  have hsize := agrees_iff answers .size store capacity happenings rfl hquiet
  refine ⟨hpreference, hsize, fun hturn htime => ?_⟩
  have hread : f.read = f.due :=
    (abreast_foldl answers happenings (abreast_start store capacity) hturn htime).read_eq_due hquiet
  exact ⟨hpreference.2 (congrArg _ hread), hsize.2 (congrArg _ hread)⟩

/-! ### Examples -/

/-- A store that states a language and nothing else, and is kept in no file. -/
def stating (language : String) : SettingsStore :=
  ⟨⟨{ SubtitleSettings.default "subtitles" with defaultLanguage := some language }, none⟩, none⟩

/-- Settings with another language are committed and then, before that is announced, such with
another size. -/
def twoUpdates : List Happening :=
  let fre := (stating "fre").settings.subtitles
  [.commit ⟨[], []⟩ fre, .commit ⟨[], []⟩ { fre with fontSize := 34 }, .announce 0, .forward, .take,
    .announce 1, .forward, .take, .take]

theorem follows_store_twoUpdates :
    let f := after (fun _ _ _ => .ok ()) (stating "eng") 64 twoUpdates
    f.Quiet ∧ f.hub.run.state.preference = f.store.preference ∧
      f.hub.run.state.size = f.store.settings.subtitles.fontSize ∧
      f.store.preference = .language "fre" ∧ f.store.settings.subtitles.fontSize = 34 := by
  intro f
  have hquiet : f.Quiet := by decide +kernel
  have hfollows := follows_store (fun _ _ _ => .ok ()) (stating "eng") 64 twoUpdates hquiet
  obtain ⟨hpreference, hsize⟩ := hfollows.2.2 (by decide +kernel) (by decide +kernel)
  exact ⟨hquiet, hpreference, hsize, by decide +kernel, by decide +kernel⟩

/-- **A language that is dropped**: while the forwarder does not have its turn, the language is
changed, and then another setting so often that the announcement of the language is dropped. The
announcements that are read tell the new language too, but as changes of another setting. -/
theorem keeps_dropped_language :
    let fre := (stating "fre").settings.subtitles
    let updates := fre :: (List.range 32).map fun i => { fre with bold := i % 2 == 0 }
    let f := after (fun _ _ _ => .ok ()) (stating "eng") 64
      (updates.zipIdx.flatMap (fun (new, i) => [.commit ⟨[], []⟩ new, .announce i]) ++
        List.replicate 32 .forward ++ [.take])
    f.Quiet ∧ f.read.length = 32 ∧ f.hub.run.state.preference = .language "eng" ∧
      f.store.preference = .language "fre" := by
  decide +kernel

/-- **A language that is overtaken**: two updates are made at the same time, and the first one that
is committed is the last one to announce. -/
theorem keeps_overtaken_language :
    let f := after (fun _ _ _ => .ok ()) (stating "eng") 64
      [.commit ⟨[], []⟩ (stating "fre").settings.subtitles,
        .commit ⟨[], []⟩ (stating "ger").settings.subtitles, .announce 1, .announce 0, .forward,
        .forward, .take, .take, .take]
    f.Quiet ∧ f.read.length = f.due.length ∧ f.hub.run.state.preference = .language "fre" ∧
      f.store.preference = .language "ger" := by
  decide +kernel

end Following

end Subtitler
