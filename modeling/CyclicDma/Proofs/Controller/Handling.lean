import CyclicDma.Proofs.Controller.Serving

/-! # Handling interrupts

What is raised and enabled is acknowledged, and then all managed channels are served.
`Handles` says what this comes to, for all registers and all channels at once: which
periods are counted, which faults are marked, and which channels are killed.
-/

namespace CyclicDma.Controller

variable {before middle after controller : Controller} {channel : Nat} {faults : UInt32}

/-- The channels that are killed when interrupts are handled. -/
def struck (controller : Controller) : List Nat :=
  controller.killed (controller.read .channelFaultStatus) (List.range controller.managed)

/-- The channels whose kills are put off with a message when interrupts are handled. -/
def spared (controller : Controller) : List Nat :=
  controller.deferred (controller.read .channelFaultStatus) (List.range controller.managed)

/-- What handling interrupts comes to. The answer tells whether there were any. -/
structure Handles (before : Controller) (answer : Bool) (after : Controller) : Prop where
  answered : answer =
    (before.raised != 0 || before.read .channelFaultStatus != 0 ||
      before.read .managerFaultStatus &&& 1 != 0)
  unanswered (hnone : answer = false) : after = before
  /-- What is raised is acknowledged, and channels are killed in order. -/
  stores : Stores ((acknowledgement before.raised).flatMap Event.writes ++
    killAllWrites (before.read .interruptEnable) before.struck) before after
  enabled (channel : Nat) : bitOf (after.read .interruptEnable) channel =
    (bitOf (before.read .interruptEnable) channel && !decide (channel ∈ before.struck))
  state (channel : Nat) : after.notificationsOf channel =
    if channel < before.managed then
      (before.notificationsOf channel).served (hasChannel before.raised channel)
        (hasChannel (before.read .channelFaultStatus) channel) before.isDebugBusy
    else before.notificationsOf channel
  kills (channel : Nat) : after.kills channel =
    before.kills channel + if channel ∈ before.struck then 1 else 0
  deferrals (channel : Nat) : after.deferrals channel =
    before.deferrals channel + if channel ∈ before.spared then 1 else 0
  managed : after.managed = before.managed
  setup : after.setup = before.setup
  config : after.config = before.config

theorem mem_attempted {channels : List Nat} :
    channel ∈ controller.attempted faults channels ↔
      channel ∈ channels ∧ hasChannel faults channel = true ∧
        (controller.notificationsOf channel).aborted = false := by
  simp [attempted]

/-- A channel is killed if it is managed and faulting, was not killed before, and the
debug interface is idle. -/
theorem mem_struck :
    channel ∈ controller.struck ↔
      controller.isDebugBusy = false ∧ channel < controller.managed ∧
        hasChannel (controller.read .channelFaultStatus) channel = true ∧
        (controller.notificationsOf channel).aborted = false := by
  rw [struck, killed]
  split
  next hbusy => simp [hbusy]
  next hidle => simp [hidle, mem_attempted]

theorem nodup_struck (controller : Controller) : controller.struck.Nodup := by
  rw [struck, killed]
  split
  · exact List.nodup_nil
  · exact List.nodup_range.filter _

theorem nodup_spared (controller : Controller) : controller.spared.Nodup := by
  rw [spared, deferred]
  split
  · exact List.nodup_range.filter _
  · exact List.nodup_nil

/-- A controller that has nothing to say is left alone. -/
theorem onInterrupt_of_none (hraised : controller.raised = 0)
    (hfaults : controller.read .channelFaultStatus = 0)
    (hmanager : controller.read .managerFaultStatus &&& 1 = 0) :
    controller.onInterrupt.2 = controller := by
  have hserved : ∀ channels : List Nat,
      channels.foldl (serveChannel 0 0) controller = controller := by
    intro channels
    induction channels with
    | nil => rfl
    | cons first rest ih =>
        have hsilent : controller.serveChannel 0 0 first = controller := by
          unfold serveChannel
          simp [hasChannel]
        rw [List.foldl_cons, hsilent, ih]
  unfold raised at hraised
  unfold onInterrupt
  dsimp only
  rw [hraised, if_pos rfl, hfaults, hmanager, if_neg (by simp)]
  exact hserved _

/-- The acknowledgement and the report of a fault of the manager leave the channels as
they are. -/
structure Reports (before after : Controller) : Prop where
  stores : Stores ((acknowledgement before.raised).flatMap Event.writes) before after
  notifications : after.notifications = before.notifications
  kills (channel : Nat) : after.kills channel = before.kills channel
  deferrals (channel : Nat) : after.deferrals channel = before.deferrals channel
  config : after.config = before.config

theorem Reports.read (hreports : Reports before after) {register : Register}
    (hregister : register ≠ .interruptClear) : after.read register = before.read register := by
  refine hreports.stores.read_of_not_mem ?_
  unfold acknowledgement
  split
  · exact List.not_mem_nil
  · exact mt List.mem_singleton.mp hregister

theorem Reports.notificationsOf (hreports : Reports before after) (channel : Nat) :
    after.notificationsOf channel = before.notificationsOf channel := by
  rw [Controller.notificationsOf, Controller.notificationsOf, hreports.notifications]

theorem Reports.managed (hreports : Reports before after) : after.managed = before.managed :=
  congrArg List.length hreports.notifications

theorem Reports.attempted (hreports : Reports before after) (faults : UInt32)
    (channels : List Nat) : after.attempted faults channels = before.attempted faults channels := by
  simp only [Controller.attempted, hreports.notificationsOf]

theorem Reports.busy (hreports : Reports before after) :
    after.isDebugBusy = before.isDebugBusy := by
  rw [isDebugBusy, isDebugBusy, hreports.read (by decide)]

theorem Reports.log (hreports : Reports before middle) {message : LogMessage}
    (hmessage : ∀ channel, message ≠ .killDeferred channel) :
    Reports before (middle.log message) := by
  have hnotes := notes_log hmessage middle
  exact ⟨hreports.stores.quietly hnotes.stores,
    (aside_log message middle).notifications.trans hreports.notifications,
    fun channel => (hnotes.kills channel).trans (hreports.kills channel),
    fun channel => (hnotes.deferrals channel).trans (hreports.deferrals channel),
    hnotes.config.trans hreports.config⟩

theorem reports_acknowledge (controller : Controller) :
    Reports controller
      (if controller.raised = 0 then controller else controller.acknowledge controller.raised) := by
  by_cases hnone : controller.raised = 0
  · rw [if_pos hnone]
    refine ⟨?_, rfl, fun _ => rfl, fun _ => rfl, rfl⟩
    rw [acknowledgement, if_pos hnone]
    exact .refl controller
  · rw [if_neg hnone]
    refine ⟨?_, rfl, fun channel => List.count_cons_of_ne (by simp),
      fun channel => List.count_cons_of_ne (by simp), rfl⟩
    rw [acknowledgement, if_neg hnone]
    exact stores_acknowledge ..

/-- All managed channels are served after that. -/
theorem onInterrupt_eq (controller : Controller) :
    ∃ reported, Reports controller reported ∧
      controller.onInterrupt.2 =
        (List.range reported.managed).foldl
          (serveChannel controller.raised (controller.read .channelFaultStatus)) reported ∧
      controller.onInterrupt.1 =
        (controller.raised != 0 || controller.read .channelFaultStatus != 0 ||
          controller.read .managerFaultStatus &&& 1 != 0) := by
  have hacknowledged := reports_acknowledge controller
  unfold raised at hacknowledged ⊢
  unfold onInterrupt
  dsimp only
  generalize (if controller.read .interruptEnable &&& controller.read .eventStatus = 0 then
      controller
    else controller.acknowledge
      (controller.read .interruptEnable &&& controller.read .eventStatus)) = acknowledged
    at hacknowledged ⊢
  rw [hacknowledged.read (by decide), hacknowledged.read (by decide)]
  split
  · exact ⟨_, hacknowledged.log (by exact nofun), rfl, rfl⟩
  · exact ⟨_, hacknowledged, rfl, rfl⟩

theorem handles_onInterrupt (hfew : controller.managed ≤ 32) :
    Handles controller controller.onInterrupt.1 controller.onInterrupt.2 := by
  obtain ⟨reported, hreports, hafter, hanswer⟩ := onInterrupt_eq controller
  have henabled : reported.read .interruptEnable = controller.read .interruptEnable :=
    hreports.read (by decide)
  have hserved : Served controller.raised (controller.read .channelFaultStatus)
      (List.range controller.managed) reported controller.onInterrupt.2 := by
    rw [hafter, hreports.managed]
    refine served_serveChannels List.nodup_range (fun channel hmem => ?_) _ _
    have hlt := List.mem_range.mp hmem
    exact ⟨hreports.managed.symm ▸ hlt, Nat.lt_of_lt_of_le hlt hfew⟩
  have hkilled : reported.killed (controller.read .channelFaultStatus)
      (List.range controller.managed) = controller.struck := by
    rw [struck, killed, killed, hreports.busy, hreports.attempted]
  have hdeferred : reported.deferred (controller.read .channelFaultStatus)
      (List.range controller.managed) = controller.spared := by
    rw [spared, deferred, deferred, hreports.busy, hreports.attempted, hreports.config]
  refine ⟨hanswer, fun hnone => ?_, ?_, fun channel => ?_, fun channel => ?_, fun channel => ?_,
    fun channel => ?_, hserved.managed.trans hreports.managed, (onInterrupt_frame controller).1,
    hserved.config.trans hreports.config⟩
  · rw [hanswer] at hnone
    simp only [Bool.or_eq_false_iff, bne_eq_false_iff_eq] at hnone
    obtain ⟨⟨hraised, hfaults⟩, hmanager⟩ := hnone
    exact onInterrupt_of_none hraised hfaults hmanager
  · rw [← hkilled, ← henabled]
    exact hreports.stores.trans hserved.stores
  · rw [hserved.enabled, hkilled, henabled]
    refine bitOf_maskAll (fun channel hmem => ?_) _ channel
    exact Nat.lt_of_lt_of_le (mem_struck.mp hmem).2.1 hfew
  · rw [hserved.state, hreports.notificationsOf, hreports.busy]
    simp only [List.mem_range]
  · rw [hserved.kills, hkilled, hreports.kills, (nodup_struck controller).count]
  · rw [hserved.deferrals, hdeferred, hreports.deferrals, (nodup_spared controller).count]

section

variable (hmanaged : channel < controller.managed) (hfew : controller.managed ≤ 32)
variable (hlive : (controller.notificationsOf channel).aborted = false)

include hmanaged hfew hlive

/-- Handling interrupts kills a faulting channel while the debug interface is idle. -/
theorem kills_onInterrupt
    (hfault : hasChannel (controller.read .channelFaultStatus) channel = true)
    (hidle : controller.isDebugBusy = false) :
    Kills channel controller controller.onInterrupt.2 := by
  have hhandles := handles_onInterrupt hfew
  have hstruck : channel ∈ controller.struck := mem_struck.mpr ⟨hidle, hmanaged, hfault, hlive⟩
  refine ⟨?_, ?_, ?_⟩
  · rw [hhandles.kills, if_pos hstruck]
  · rw [hasChannel_eq_bitOf (Nat.lt_of_lt_of_le hmanaged hfew), hhandles.enabled,
      decide_eq_true hstruck]
    exact Bool.and_false _
  · rw [hhandles.state, if_pos hmanaged, Notifications.aborted_served, hfault, hidle]
    exact Bool.or_true _

/-- The kill is deferred while the debug interface is busy. -/
theorem defers_onInterrupt
    (hfault : hasChannel (controller.read .channelFaultStatus) channel = true)
    (hbusy : controller.isDebugBusy = true) :
    Defers channel controller controller.onInterrupt.2 := by
  have hhandles := handles_onInterrupt hfew
  refine ⟨?_, ?_, ?_⟩
  · rw [hhandles.kills, if_neg (by simp [mem_struck, hbusy]), Nat.add_zero]
  · rw [hhandles.state, if_pos hmanaged, Notifications.faulted_served, hfault]
    exact Bool.or_true _
  · rw [hhandles.state, if_pos hmanaged, Notifications.aborted_served, hlive, hbusy]
    exact Bool.and_false _

/-- While the debug interface is busy, no channel is killed, and no mark of a fault is
taken away. -/
theorem marks_onInterrupt_of_busy (hbusy : controller.isDebugBusy = true) :
    (controller.onInterrupt.2.notificationsOf channel).aborted = false ∧
      ((controller.notificationsOf channel).faulted = true →
        (controller.onInterrupt.2.notificationsOf channel).faulted = true) := by
  have hhandles := handles_onInterrupt hfew
  rw [hhandles.state, if_pos hmanaged, Notifications.aborted_served,
    Notifications.faulted_served, hlive, hbusy]
  exact ⟨Bool.and_false _, fun hmarked => by rw [hmarked, Bool.true_or]⟩

end

/-- Handling interrupts marks a channel as aborted only by killing it. -/
theorem kills_of_aborted (hfew : controller.managed ≤ 32)
    (hlive : (controller.notificationsOf channel).aborted = false)
    (haborted : (controller.onInterrupt.2.notificationsOf channel).aborted = true) :
    Kills channel controller controller.onInterrupt.2 := by
  rw [(handles_onInterrupt hfew).state] at haborted
  split at haborted
  next hmanaged =>
    rw [Notifications.aborted_served, hlive, Bool.false_or, Bool.and_eq_true,
      Bool.not_eq_true'] at haborted
    exact kills_onInterrupt hmanaged hfew hlive haborted.1 haborted.2
  next =>
    rw [hlive] at haborted
    cases haborted

end CyclicDma.Controller
