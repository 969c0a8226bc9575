import CyclicDma.Proofs.BitField
import CyclicDma.Proofs.Controller.Operations

/-! # How channels stand

Whether a channel runs, whether its event is enabled, and which command drove it
last, are told apart for each channel. Whatever is done to one channel leaves the
other ones as they stand.
-/

namespace CyclicDma

/-- The command, if the event hands one over that starts or kills the channel. -/
def Event.drives? (channel : Nat) : Event → Option Command
  | issue (.channel killed) .kill => if killed = channel then some .kill else none
  | issue _ (.go started address nonsecure) =>
      if started = channel then some (.go started address nonsecure) else none
  | _ => none

/-- A command that drives a channel names the channel. -/
theorem Event.channel_of_drives? {event : Event} {channel started : Nat} {address : UInt32}
    {nonsecure : Bool} (hdrives : event.drives? channel = some (.go started address nonsecure)) :
    started = channel := by
  unfold Event.drives? at hdrives
  split at hdrives
  · split at hdrives <;> cases hdrives
  · split at hdrives
    next hsame =>
      cases hdrives
      exact hsame
    next => cases hdrives
  · cases hdrives

theorem Event.IsReport.drives?_eq_none {event : Event} (hreport : event.IsReport) (channel : Nat) :
    event.drives? channel = none := by
  cases event with
  | call | interrupted | ownerRemoved | dispatched | wake => rfl
  | _ => exact hreport.elim

/-- How a channel stands. -/
structure Standing where
  /-- What the holder asked for, if the channel is held. -/
  request : Option Request
  /-- The interrupt handler killed the channel, which its holder was not told yet. -/
  aborted : Bool
  /-- The event of the channel raises its interrupt line. -/
  enabled : Bool
  /-- The last command that started or killed the channel. -/
  command : Option Command
  /-- The command that starts the channel at its slab. -/
  launch : Option Command

/-! ## Bits of channels -/

namespace Controller

theorem bitOf_channelBit {channel : Nat} (hchannel : channel < 32) (other : Nat) :
    bitOf (channelBit channel) other = decide (other = channel) := by
  rw [channelBit, bitOf_shiftLeft hchannel, Bool.eq_iff_iff]
  have hone : bitOf 1 (other - channel) = decide (other - channel = 0) := by
    change (1 : BitVec 32).getLsbD _ = _
    simp
  rw [hone]
  simp only [Bool.and_eq_true, decide_eq_true_eq]
  omega

theorem hasChannel_eq_bitOf {channel : Nat} (hchannel : channel < 32) (bits : UInt32) :
    hasChannel bits channel = bitOf bits channel := by
  cases hbit : bitOf bits channel with
  | true =>
      refine bne_iff_ne.mpr fun hzero => ?_
      have hboth : bitOf (bits &&& channelBit channel) channel = true := by
        rw [bitOf_and, hbit, bitOf_channelBit hchannel, decide_eq_true rfl]
        rfl
      rw [hzero] at hboth
      exact absurd hboth (by simp [bitOf])
  | false =>
      refine bne_eq_false_iff_eq.mpr (eq_of_bitOf_eq fun other _ => ?_)
      rw [bitOf_and, bitOf_channelBit hchannel]
      by_cases hsame : other = channel
      · rw [hsame, hbit]
        simp [bitOf]
      · simp [hsame, bitOf]

/-! ## Standings -/

variable {before after controller : Controller} {channel : Nat}

/-- The last command that started or killed a channel. -/
def lastCommand? (channel : Nat) (controller : Controller) : Option Command :=
  controller.history.findSome? (Event.drives? channel)

theorem channel_of_lastCommand? {started : Nat} {address : UInt32} {nonsecure : Bool}
    (hcommand : controller.lastCommand? channel = some (.go started address nonsecure)) :
    started = channel := by
  obtain ⟨event, -, hdrives⟩ := List.exists_of_findSome?_eq_some hcommand
  exact event.channel_of_drives? hdrives

/-- How the channels stand. -/
def standings (controller : Controller) (channel : Nat) : Standing where
  request := controller.request? channel
  aborted := (controller.notificationsOf channel).aborted
  enabled := bitOf (controller.read .interruptEnable) channel
  command := controller.lastCommand? channel
  launch := controller.setup.map fun setup =>
    .go channel (setup.slabAddress channel) setup.device.nonsecure

theorem enabled_standings (hchannel : channel < 32) (controller : Controller) :
    (controller.standings channel).enabled =
      hasChannel (controller.read .interruptEnable) channel :=
  (hasChannel_eq_bitOf hchannel _).symm

/-- What is recorded in passing drives no channel. -/
theorem standings_record {event : Event} (hevent : ∀ channel, event.drives? channel = none)
    (controller : Controller) : (controller.record event).standings = controller.standings := by
  funext channel
  have hcommand : (controller.record event).lastCommand? channel =
      controller.lastCommand? channel :=
    List.findSome?_cons_of_isNone (Option.isNone_iff_eq_none.mpr (hevent channel))
  rw [standings, standings, hcommand]
  rfl

theorem standings_logAt (verbosity : Verbosity) (message : LogMessage) (controller : Controller) :
    (controller.logAt verbosity message).standings = controller.standings := by
  unfold logAt
  split
  · exact standings_record (fun _ => rfl) controller
  · rfl

theorem standings_log (message : LogMessage) (controller : Controller) :
    (controller.log message).standings = controller.standings :=
  standings_logAt _ message controller

theorem standings_tick (controller : Controller) :
    ({ controller with clock := controller.clock + 1 }.record .delay).standings =
      controller.standings :=
  standings_record (fun _ => rfl) { controller with clock := controller.clock + 1 }

/-- Registers apart from the one that enables events do not matter. -/
theorem standings_registers {register : Register} (hregister : register ≠ .interruptEnable)
    (value : UInt32) (controller : Controller) :
    standings { controller with registers := controller.registers.write register value } =
      controller.standings := by
  funext channel
  have hread : (controller.registers.write register value).read .interruptEnable =
      controller.registers.read .interruptEnable :=
    Registers.read_write_of_ne _ _ hregister.symm
  rw [standings, standings, read, hread]
  rfl

theorem standings_write {register : Register} (hregister : register ≠ .interruptEnable)
    (value : UInt32) (controller : Controller) :
    (controller.write register value).standings = controller.standings :=
  (standings_record (fun _ => rfl) _).trans (standings_registers hregister value controller)

theorem standings_change {register : Register} (hregister : register ≠ .interruptEnable)
    (value : UInt32) (controller : Controller) :
    (controller.change register value).standings = controller.standings :=
  (standings_record (fun _ => rfl) _).trans (standings_registers hregister value controller)

theorem standings_acknowledge (raised : UInt32) (controller : Controller) :
    (controller.acknowledge raised).standings = controller.standings :=
  (standings_record (fun _ => rfl) _).trans (standings_registers (by decide) raised controller)

/-- Enabling other events gives the channels other bits. -/
theorem standings_write_interruptEnable (value : UInt32) (controller : Controller) (channel : Nat) :
    (controller.write .interruptEnable value).standings channel =
      { controller.standings channel with enabled := bitOf value channel } :=
  congrFun (standings_record (fun _ => rfl)
    { controller with registers := controller.registers.write .interruptEnable value }) channel

theorem standings_unmaskEvent (hchannel : channel < 32) (controller : Controller) :
    (controller.unmaskEvent channel).standings =
      Function.update controller.standings channel
        { controller.standings channel with enabled := true } := by
  refine Function.eq_update_iff.mpr ⟨?_, fun other hne => ?_⟩
  · rw [unmaskEvent, standings_write_interruptEnable, bitOf_or, bitOf_channelBit hchannel,
      decide_eq_true rfl, Bool.or_true]
  · rw [unmaskEvent, standings_write_interruptEnable, bitOf_or, bitOf_channelBit hchannel,
      decide_eq_false hne, Bool.or_false]
    rfl

/-- A word without some bits has all the others. -/
theorem bitOf_and_not (bits mask : UInt32) (channel : Nat) :
    bitOf (bits &&& ~~~mask) channel = (bitOf bits channel && !bitOf mask channel) := by
  rcases Nat.lt_or_ge channel 32 with hchannel | hout
  · rw [bitOf_and, bitOf_not hchannel]
  · rw [bitOf_of_ge hout, bitOf_of_ge hout, Bool.false_and]

theorem standings_maskEvent (hchannel : channel < 32) (controller : Controller) :
    (controller.maskEvent channel).standings =
      Function.update controller.standings channel
        { controller.standings channel with enabled := false } := by
  refine Function.eq_update_iff.mpr ⟨?_, fun other hne => ?_⟩
  · rw [maskEvent, standings_write_interruptEnable, bitOf_and_not, bitOf_channelBit hchannel,
      decide_eq_true rfl, Bool.not_true, Bool.and_false]
  · rw [maskEvent, standings_write_interruptEnable, bitOf_and_not, bitOf_channelBit hchannel,
      decide_eq_false hne, Bool.not_false, Bool.and_true]
    rfl

theorem standings_silence (hchannel : channel < 32) (controller : Controller) :
    (controller.silence (.channel channel)).standings =
      Function.update controller.standings channel
        { controller.standings channel with enabled := false } := by
  unfold silence
  dsimp only
  rw [standings_maskEvent hchannel]
  split
  · rw [standings_write (by decide)]
  · rfl

/-! ## Commands -/

/-- A command that is handed over becomes the last one of the channel that it
drives. -/
theorem standings_issue (thread : ThreadId) (command : Command) (controller : Controller)
    (channel : Nat) :
    (controller.issue thread command).standings channel =
      { controller.standings channel with
        command := (Event.issue thread command).drives? channel <|>
          (controller.standings channel).command } := by
  unfold issue
  rw [standings_log]
  have hcommand : ∀ registers, lastCommand? channel
      ({ controller with registers }.record (.issue thread command)) =
        ((Event.issue thread command).drives? channel <|> controller.lastCommand? channel) := by
    intro registers
    change List.findSome? _ (.issue thread command :: controller.history) = _
    rw [List.findSome?_cons]
    cases (Event.issue thread command).drives? channel <;> rfl
  rw [standings, hcommand]
  rfl

theorem standings_issue_kill (controller : Controller) (channel : Nat) :
    (controller.issue (.channel channel) .kill).standings =
      Function.update controller.standings channel
        { controller.standings channel with command := some .kill } := by
  refine Function.eq_update_iff.mpr ⟨?_, fun other hne => ?_⟩
  · rw [standings_issue, Event.drives?, if_pos rfl]
    rfl
  · rw [standings_issue, Event.drives?, if_neg (Ne.symm hne)]
    rfl

theorem standings_issue_kill_manager (controller : Controller) :
    (controller.issue .manager .kill).standings = controller.standings := by
  funext channel
  rw [standings_issue]
  rfl

theorem standings_issue_go (thread : ThreadId) (address : UInt32) (nonsecure : Bool)
    (controller : Controller) (channel : Nat) :
    (controller.issue thread (.go channel address nonsecure)).standings =
      Function.update controller.standings channel
        { controller.standings channel with command := some (.go channel address nonsecure) } := by
  have hdrives : ∀ other, (Event.issue thread (.go channel address nonsecure)).drives? other =
      if channel = other then some (.go channel address nonsecure) else none := by
    intro other
    cases thread <;> rfl
  refine Function.eq_update_iff.mpr ⟨?_, fun other hne => ?_⟩
  · rw [standings_issue, hdrives, if_pos rfl]
    rfl
  · rw [standings_issue, hdrives, if_neg (Ne.symm hne)]
    rfl

/-! ## Marks and requests -/

/-- Only the mark of an abort matters among the notifications. -/
theorem standings_notifications {notifications : List Notifications}
    (hmarks : notifications.map (·.aborted) = controller.notifications.map (·.aborted)) :
    standings { controller with notifications } = controller.standings := by
  funext channel
  have haborted : (notifications.getD channel {}).aborted =
      (controller.notificationsOf channel).aborted := by
    have hmap := congrArg (List.getD · channel (Notifications.aborted {})) hmarks
    exact (List.getD_map ..).symm.trans (hmap.trans (List.getD_map ..))
  rw [standings, standings, ← haborted]
  rfl

theorem standings_updateNotifications {update : Notifications → Notifications}
    (hupdate : ∀ notifications, (update notifications).aborted = notifications.aborted)
    (channel : Nat) (controller : Controller) :
    (controller.updateNotifications channel update).standings = controller.standings := by
  refine standings_notifications (List.ext_getElem? fun other => ?_)
  rw [List.getElem?_map, List.getElem?_map, List.getElem?_modify]
  split <;> cases controller.notifications[other]? <;> simp [hupdate]

theorem standings_setNotifications {notifications : Notifications}
    (haborted : notifications.aborted = (controller.notificationsOf channel).aborted) :
    (controller.updateNotifications channel fun _ => notifications).standings =
      controller.standings := by
  funext other
  have hmark : ((controller.updateNotifications channel fun _ => notifications).notificationsOf
      other).aborted = (controller.notificationsOf other).aborted := by
    rw [notificationsOf_updateNotifications]
    split
    next hboth => rw [hboth.1, haborted]
    next => rfl
  rw [standings, standings, hmark]
  rfl

/-- The mark of an abort is set for a channel that is managed. -/
theorem standings_setAborted {aborted : Bool} {update : Notifications → Notifications}
    (hmanaged : channel < controller.managed)
    (hupdate : ∀ notifications, (update notifications).aborted = aborted) :
    (controller.updateNotifications channel update).standings =
      Function.update controller.standings channel
        { controller.standings channel with aborted } := by
  refine Function.eq_update_iff.mpr ⟨?_, fun other hne => ?_⟩
  · rw [standings, notificationsOf_updateNotifications_self _ hmanaged, hupdate]
    rfl
  · rw [standings, notificationsOf_updateNotifications_of_ne _ hne]
    rfl

/-- A mark that is taken away need not have been there. -/
theorem standings_clearAborted {update : Notifications → Notifications}
    (hupdate : ∀ notifications, (update notifications).aborted = false) (channel : Nat)
    (controller : Controller) :
    (controller.updateNotifications channel update).standings =
      Function.update controller.standings channel
        { controller.standings channel with aborted := false } := by
  rcases Nat.lt_or_ge channel controller.managed with hmanaged | hout
  · exact standings_setAborted hmanaged hupdate
  · refine Function.eq_update_iff.mpr ⟨?_, fun other hne => ?_⟩
    · rw [standings, notificationsOf_of_ge]
      · rfl
      · rwa [managed_updateNotifications]
    · rw [standings, notificationsOf_updateNotifications_of_ne _ hne]
      rfl

theorem standings_updateRequest (channel : Nat) (update : Request → Request)
    (controller : Controller) :
    (controller.updateRequest channel update).standings =
      Function.update controller.standings channel
        { controller.standings channel with
          request := (controller.standings channel).request.map update } := by
  have hlaunch : ∀ other, (controller.updateRequest channel update).setup.map (fun setup =>
      Command.go other (setup.slabAddress other) setup.device.nonsecure) =
        controller.setup.map fun setup =>
          .go other (setup.slabAddress other) setup.device.nonsecure := by
    intro other
    rw [updateRequest, Option.map_map]
    rfl
  have hrequest : ∀ other, (controller.updateRequest channel update).request? other =
      if channel = other then (controller.request? other).map update
      else controller.request? other := by
    intro other
    simp only [updateRequest, request?]
    cases controller.setup with
    | none => simp
    | some setup =>
        simp only [Option.map_some, Option.bind_some, List.getElem?_modify]
        split <;> rcases setup.requests[other]? with _ | _ | request <;> rfl
  refine Function.eq_update_iff.mpr ⟨?_, fun other hne => ?_⟩
  · rw [standings, hlaunch, hrequest, if_pos rfl]
    rfl
  · rw [standings, hlaunch, hrequest, if_neg (Ne.symm hne)]
    rfl

/-- A channel is given back, or a channel that can be used is held. -/
theorem standings_setRequest {request : Option Request}
    (hrequest : request = none ∨ ∃ setup, controller.setup = some setup ∧ channel < setup.usable) :
    (controller.setRequest channel request).standings =
      Function.update controller.standings channel
        { controller.standings channel with request } := by
  have hlaunch : ∀ other, (controller.setRequest channel request).setup.map (fun setup =>
      Command.go other (setup.slabAddress other) setup.device.nonsecure) =
        controller.setup.map fun setup =>
          .go other (setup.slabAddress other) setup.device.nonsecure := by
    intro other
    rw [setRequest, Option.map_map]
    rfl
  have hself : (controller.setRequest channel request).request? channel = request := by
    rcases hrequest with rfl | ⟨setup, hsetup, husable⟩
    · simp only [setRequest, request?]
      cases controller.setup with
      | none => rfl
      | some setup =>
          simp only [Option.map_some, Option.bind_some, List.getElem?_set_self']
          cases setup.requests[channel]? <;> rfl
    · simp only [setRequest, request?, hsetup, Option.map_some, Option.bind_some]
      rw [List.getElem?_set_self husable]
      rfl
  have hothers : ∀ other, other ≠ channel →
      (controller.setRequest channel request).request? other = controller.request? other := by
    intro other hne
    simp only [setRequest, request?]
    cases controller.setup with
    | none => rfl
    | some setup =>
        simp only [Option.map_some, Option.bind_some]
        rw [List.getElem?_set_ne (Ne.symm hne)]
  refine Function.eq_update_iff.mpr ⟨?_, fun other hne => ?_⟩
  · rw [standings, hlaunch, hself]
    rfl
  · rw [standings, hlaunch, hothers other hne]
    rfl

theorem standings_storeSlab (slab : List UInt8) (channel : Nat) (controller : Controller) :
    (controller.storeSlab slab channel).standings = controller.standings := by
  funext other
  simp only [standings, storeSlab, request?, Option.map_map]
  cases controller.setup <;> rfl

end Controller

end CyclicDma
