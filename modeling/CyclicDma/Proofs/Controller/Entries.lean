import CyclicDma.Proofs.Controller.Step

/-! # Entries of the history

Some events count periods, or say that a channel was launched. Each of them is
entered into the history by a step of its own kind, so an entry that is found
there goes back to a moment at which that step was taken. All other steps leave
the pending and the delivered periods alone.
-/

namespace CyclicDma.Controller

variable {before after controller start last : Controller} {event : Event}

/-- Nothing is entered into the history, and no periods are counted. -/
structure Uneventful (before after : Controller) : Prop where
  managed : after.managed = before.managed
  history : ∃ events, after.history = events ++ before.history ∧ ∀ event ∈ events, event.IsAside
  pending : ∀ channel,
    (after.notificationsOf channel).pending = (before.notificationsOf channel).pending
  periods : ∀ channel,
    (after.notificationsOf channel).periods = (before.notificationsOf channel).periods

/-- A step enters an event into the history. -/
inductive Enters : Event → Controller → Controller → Prop
  /-- A transfer is recorded for the channel that is launched. -/
  | launch {channel setup transfer} {controller : Controller}
      (hsetup : controller.setup = some setup)
      (htransfer : controller.transfer? channel = some transfer) :
      Enters
        (.issue (.channel channel) (.go channel (setup.slabAddress channel) setup.device.nonsecure))
        controller
        (controller.issue (.channel channel)
          (.go channel (setup.slabAddress channel) setup.device.nonsecure))
  /-- The interrupts are handled while events are raised and enabled. -/
  | acknowledge {controller : Controller} (hraised : controller.raised ≠ 0) :
      Enters (.acknowledge controller.raised) controller controller.onInterrupt.2
  | take (channel controller) :
      Enters (.take channel (controller.notificationsOf channel).pending) controller
        (controller.takePending channel)
  | discard (channel controller) :
      Enters (.discard channel (controller.notificationsOf channel).pending) controller
        (controller.discardPending channel)

/-! ## Steps that enter nothing -/

theorem Aside.uneventful (haside : Aside before after) : Uneventful before after where
  managed := haside.managed
  history := haside.history
  pending channel := congrArg Notifications.pending (haside.notificationsOf channel)
  periods channel := congrArg Notifications.periods (haside.notificationsOf channel)

theorem uneventful_of_notifications_eq (hhistory : after.history = before.history)
    (hnotifications : after.notifications = before.notifications) : Uneventful before after where
  managed := congrArg List.length hnotifications
  history := ⟨[], hhistory, fun _ hmem => absurd hmem List.not_mem_nil⟩
  pending channel := by rw [notificationsOf, notificationsOf, hnotifications]
  periods channel := by rw [notificationsOf, notificationsOf, hnotifications]

theorem uneventful_updateNotifications {channel : Nat} {update : Notifications → Notifications}
    (hpending : (update (controller.notificationsOf channel)).pending =
      (controller.notificationsOf channel).pending)
    (hperiods : (update (controller.notificationsOf channel)).periods =
      (controller.notificationsOf channel).periods) :
    Uneventful controller (controller.updateNotifications channel update) where
  managed := managed_updateNotifications ..
  history := ⟨[], rfl, fun _ hmem => absurd hmem List.not_mem_nil⟩
  pending other := by
    rw [notificationsOf_updateNotifications]
    split
    next hboth => rw [hboth.1, hpending]
    next => rfl
  periods other := by
    rw [notificationsOf_updateNotifications]
    split
    next hboth => rw [hboth.1, hperiods]
    next => rfl

theorem uneventful_removeOwner (owner : Nat) (controller : Controller) :
    Uneventful controller
      { controller with notifications := controller.notifications.map (·.removeOwner owner) } := by
  have hremoved : ∀ channel,
      Controller.notificationsOf channel
        { controller with notifications := controller.notifications.map (·.removeOwner owner) } =
      (controller.notificationsOf channel).removeOwner owner := fun channel =>
    List.getD_map controller.notifications {} (·.removeOwner owner)
  refine ⟨List.length_map .., ⟨[], rfl, fun _ hmem => absurd hmem List.not_mem_nil⟩, ?_, ?_⟩
  · intro channel
    rw [hremoved]
    rfl
  · intro channel
    rw [hremoved]
    rfl

/-- Handling interrupts counts nothing if no event is raised. -/
theorem uneventful_onInterrupt (hnone : controller.raised = 0) :
    Uneventful controller controller.onInterrupt.2 := by
  obtain ⟨-, -, hmanaged, events, hhistory, haside⟩ := onInterrupt_frame controller
  have hsame : ∀ channel, Notifications.SameButMarks (controller.notificationsOf channel)
      (controller.onInterrupt.2.notificationsOf channel) := by
    intro channel
    have hmarks := sameButMarks_onInterrupt channel controller
    rwa [counted, hnone, if_neg (by simp [hasChannel])] at hmarks
  refine ⟨hmanaged, ⟨events, ?_, haside⟩, fun channel => ?_, fun channel => ?_⟩
  · rw [hhistory, acknowledgement, if_pos hnone, List.append_nil]
  · obtain ⟨_, _, heq⟩ := hsame channel
    rw [heq]
  · obtain ⟨_, _, heq⟩ := hsame channel
    rw [heq]

/-! ## Steps and their entries -/

theorem ThreadStep.enters (hstep : ThreadStep before after) :
    Uneventful before after ∨ ∃ event, Enters event before after := by
  cases hstep with
  | aside haside => exact .inl haside.uneventful
  | interrupt =>
      by_cases hraised : before.raised = 0
      · exact .inl (uneventful_onInterrupt hraised)
      · exact .inr ⟨_, .acknowledge hraised⟩
  | setAborted => exact .inl (uneventful_updateNotifications rfl rfl)
  | setRunning => exact .inl (uneventful_of_notifications_eq rfl rfl)
  | launch hsetup htransfer => exact .inr ⟨_, .launch hsetup htransfer⟩

/-- A step makes an entry, or nothing is counted. -/
theorem Step.enters (hstep : Step before after) :
    Uneventful before after ∨ ∃ event, Enters event before after := by
  cases hstep with
  | thread hthread => exact hthread.enters
  | await => exact .inl (uneventful_updateNotifications rfl rfl)
  | @register channel _ _ _ _ _ _ hregister =>
      obtain rfl := Notifications.register_eq_ok hregister
      exact .inl (uneventful_updateNotifications rfl rfl)
  | unregister hunregister =>
      obtain ⟨-, rfl⟩ := Notifications.unregister_eq_ok hunregister
      exact .inl (uneventful_updateNotifications rfl rfl)
  | removeOwner owner => exact .inl (uneventful_removeOwner owner before)
  | takePending channel => exact .inr ⟨_, .take channel before⟩
  | discardPending channel => exact .inr ⟨_, .discard channel before⟩
  | forget | install | allocate | release | «open» | close =>
      exact .inl (uneventful_of_notifications_eq rfl rfl)

/-- What an entry says is written down, with nothing above it but events that
are noted in passing. -/
theorem Enters.history (henters : Enters event before after) :
    ∃ events, after.history = events ++ event :: before.history ∧
      ∀ event ∈ events, event.IsAside := by
  cases henters with
  | launch hsetup htransfer =>
      obtain ⟨-, -, -, hhistory⟩ := issue_frame _ _ before
      exact hhistory
  | acknowledge hraised =>
      obtain ⟨-, -, -, events, hhistory, haside⟩ := onInterrupt_frame before
      refine ⟨events, ?_, haside⟩
      rw [hhistory, acknowledgement, if_neg hraised, List.append_assoc]
      rfl
  | take | discard => exact ⟨[], rfl, fun _ hmem => absurd hmem List.not_mem_nil⟩

/-! ## The history grows -/

theorem Steps.history (hsteps : Steps before after) :
    ∃ events, after.history = events ++ before.history := by
  induction hsteps with
  | refl => exact ⟨[], rfl⟩
  | tail _ hstep ih =>
      obtain ⟨older, holder⟩ := ih
      rcases hstep.enters with huneventful | ⟨event, henters⟩
      · obtain ⟨events, hevents, -⟩ := huneventful.history
        exact ⟨events ++ older, by rw [hevents, holder, List.append_assoc]⟩
      · obtain ⟨events, hevents, -⟩ := henters.history
        exact ⟨events ++ event :: older, by rw [hevents, holder, List.append_assoc, List.cons_append]⟩

theorem eventsSince_of_history {events : List Event}
    (hhistory : after.history = events ++ before.history) :
    after.eventsSince before = events.reverse := by
  rw [eventsSince, hhistory, List.length_append, Nat.add_sub_cancel, List.take_left]

/-- An event of a history that goes on stands among what was added, or it was there before. -/
theorem append_cases {newer older events history : List Event}
    (heq : newer ++ event :: older = events ++ history) :
    (∃ recent, events = newer ++ event :: recent ∧ older = recent ++ history) ∨
      ∃ between, newer = events ++ between ∧ history = between ++ event :: older := by
  rcases List.append_eq_append_iff.mp heq with ⟨rest, hevents, hrest⟩ | ⟨between, hnewer, hhistory⟩
  · cases rest with
    | nil => exact .inr ⟨[], by simpa using hevents.symm, by simpa using hrest.symm⟩
    | cons first rest =>
        cases hrest
        exact .inl ⟨rest, hevents, rfl⟩
  · exact .inr ⟨between, hnewer, hhistory⟩

/-- An event of a kind stands among the older events if none of the newer ones is of that
kind. -/
theorem exists_append_of_kind {kind : Event → Prop} {newer older events history : List Event}
    (hkind : kind event) (heq : newer ++ event :: older = events ++ history)
    (hnone : ∀ event ∈ events, ¬ kind event) :
    ∃ between, newer = events ++ between ∧ history = between ++ event :: older := by
  rcases append_cases heq with ⟨recent, hevents, -⟩ | hbetween
  · exact absurd hkind (hnone event (hevents ▸ List.mem_append_right _ List.mem_cons_self))
  · exact hbetween

/-- An entry stands among the older events if none of the newer ones is an
entry. -/
theorem exists_append_of_not_isAside {newer older events history : List Event}
    (hentry : ¬ event.IsAside) (heq : newer ++ event :: older = events ++ history)
    (haside : ∀ event ∈ events, event.IsAside) :
    ∃ between, newer = events ++ between ∧ history = between ++ event :: older :=
  exists_append_of_kind hentry heq fun event hmem => not_not.mpr (haside event hmem)

/-- An entry that was added to the history was made by some step, and what is
older was there before the step. -/
theorem Steps.exists_entry_since (hsteps : Steps start last) {newer older : List Event}
    (hentry : ¬ event.IsAside) (hhistory : last.history = newer ++ event :: older)
    (hadded : start.history.length ≤ older.length) :
    ∃ moment next, Steps start moment ∧ moment.history = older ∧ Enters event moment next ∧
      Steps next last := by
  induction hsteps generalizing newer with
  | refl =>
      have hlength := congrArg List.length hhistory
      rw [List.length_append, List.length_cons] at hlength
      omega
  | @tail middle last hearlier hstep ih =>
      rcases hstep.enters with huneventful | ⟨other, henters⟩
      · obtain ⟨events, hevents, haside⟩ := huneventful.history
        obtain ⟨between, -, hbetween⟩ :=
          exists_append_of_not_isAside hentry (hhistory ▸ hevents) haside
        obtain ⟨moment, next, hmoment, holder, hmade, hlater⟩ := ih hbetween
        exact ⟨moment, next, hmoment, holder, hmade, hlater.tail hstep⟩
      · obtain ⟨events, hevents, haside⟩ := henters.history
        obtain ⟨between, -, hbetween⟩ :=
          exists_append_of_not_isAside hentry (hhistory ▸ hevents) haside
        -- the entry is the one of this step, or an older one
        cases between with
        | nil =>
            cases hbetween
            exact ⟨middle, last, hearlier, rfl, henters, .refl⟩
        | cons first between =>
            obtain ⟨moment, next, hmoment, holder, hmade, hlater⟩ := ih (List.cons.inj hbetween).2
            exact ⟨moment, next, hmoment, holder, hmade, hlater.tail hstep⟩

theorem read_log (register : Register) (message : LogMessage) (controller : Controller) :
    (controller.log message).read register = controller.read register :=
  congrArg (·.read register) (registers_log message controller)

/-- The second debug word of a launch is the address that it names. -/
theorem secondWord_go (channel : Nat) (address : UInt32) (nonsecure : Bool) :
    (Command.go channel address nonsecure).secondWord = address :=
  LittleEndian.joinWord_split address

theorem read_issue_debugInstruction1 (thread : ThreadId) (command : Command)
    (controller : Controller) :
    (controller.issue thread command).read .debugInstruction1 = command.secondWord := by
  unfold issue
  dsimp only
  rw [read_log]
  rfl

/-- Handing a command over neither enables nor masks an event. -/
theorem read_issue_interruptEnable (thread : ThreadId) (command : Command)
    (controller : Controller) :
    (controller.issue thread command).read .interruptEnable =
      controller.read .interruptEnable := by
  unfold issue
  dsimp only
  rw [read_log]
  rfl

end CyclicDma.Controller
