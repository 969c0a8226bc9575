import CyclicDma.Proofs.Controller.Attending

/-! # Killing channels

A kill that is handed over while the debug interface is idle masks the event of the channel
and marks it as aborted. It spares the other channels.
-/

namespace CyclicDma.Controller

variable {before middle after controller : Controller} {channel other : Nat}

/-- How often a kill of the channel was handed over. -/
def kills (channel : Nat) (controller : Controller) : Nat :=
  controller.history.count (.issue (.channel channel) .kill)

/-- The channel is killed, and can interrupt no more. -/
structure Kills (channel : Nat) (before after : Controller) : Prop where
  issued : after.kills channel = before.kills channel + 1
  masked : hasChannel (after.read .interruptEnable) channel = false
  aborted : (after.notificationsOf channel).aborted = true

/-- The fault of the channel is marked, and the channel is not killed. -/
structure Defers (channel : Nat) (before after : Controller) : Prop where
  kills : after.kills channel = before.kills channel
  faulted : (after.notificationsOf channel).faulted = true
  aborted : (after.notificationsOf channel).aborted = false

/-- Nothing happens to the channel, and the debug interface is as busy as before. -/
structure Spares (channel : Nat) (before after : Controller) : Prop where
  state : after.notificationsOf channel = before.notificationsOf channel
  kills : after.kills channel = before.kills channel
  enabled : bitOf (after.read .interruptEnable) channel =
    bitOf (before.read .interruptEnable) channel
  busy : after.isDebugBusy = before.isDebugBusy
  managed : after.managed = before.managed

namespace Spares

theorem refl (channel : Nat) (controller : Controller) : Spares channel controller controller :=
  ⟨rfl, rfl, rfl, rfl, rfl⟩

theorem trans (hfirst : Spares channel before middle) (hsecond : Spares channel middle after) :
    Spares channel before after where
  state := hsecond.state.trans hfirst.state
  kills := hsecond.kills.trans hfirst.kills
  enabled := hsecond.enabled.trans hfirst.enabled
  busy := hsecond.busy.trans hfirst.busy
  managed := hsecond.managed.trans hfirst.managed

end Spares

/-! ## Events and registers -/

theorem spares_record {event : Event} (hevent : event ≠ .issue (.channel channel) .kill)
    (controller : Controller) : Spares channel controller (controller.record event) :=
  ⟨rfl, List.count_cons_of_ne hevent, rfl, rfl, rfl⟩

theorem spares_log (message : LogMessage) (channel : Nat) (controller : Controller) :
    Spares channel controller (controller.log message) := by
  unfold log logAt
  split
  · exact spares_record (by exact nofun) controller
  · exact .refl channel controller

/-- Only the registers that tell which events are enabled, and whether the debug
interface is busy, matter. -/
theorem spares_registers {registers : Registers}
    (henabled : bitOf (registers.read .interruptEnable) channel =
      bitOf (controller.read .interruptEnable) channel)
    (hbusy : registers.read .debugStatus = controller.read .debugStatus) :
    Spares channel controller { controller with registers } :=
  ⟨rfl, rfl, henabled, congrArg (decide <| busyField.get · = 1) hbusy, rfl⟩

theorem spares_write {register : Register} {value : UInt32}
    (henabled : bitOf ((controller.registers.write register value).read .interruptEnable) channel =
      bitOf (controller.read .interruptEnable) channel) (hregister : register ≠ .debugStatus) :
    Spares channel controller (controller.write register value) :=
  (spares_registers henabled (Registers.read_write_of_ne _ _ hregister.symm)).trans
    (spares_record (by exact nofun) _)

/-- Masking another event leaves this one as it is. -/
theorem spares_silence (hne : other ≠ channel) (hother : other < 32) (controller : Controller) :
    Spares channel controller (controller.silence (.channel other)) := by
  have hmasked : ∀ controller : Controller, Spares channel controller (controller.maskEvent other) := by
    refine fun controller => spares_write ?_ (by decide)
    rw [Registers.read_write_self, bitOf_and_not, bitOf_channelBit hother,
      decide_eq_false hne.symm, Bool.not_false, Bool.and_true]
  unfold silence
  dsimp only
  split
  · refine (spares_write ?_ (by decide)).trans (hmasked _)
    rw [Registers.read_write_of_ne _ _ (by decide)]
    rfl
  · exact hmasked controller

theorem spares_issue_kill (hne : other ≠ channel) (controller : Controller) :
    Spares channel controller (controller.issue (.channel other) .kill) := by
  have hissued : ∀ registers : Registers,
      registers.read .interruptEnable = controller.read .interruptEnable →
      registers.read .debugStatus = controller.read .debugStatus →
      Spares channel controller
        ({ controller with registers }.record (.issue (.channel other) .kill)) := by
    intro registers henabled hbusy
    refine (spares_registers (congrArg (bitOf · channel) henabled) hbusy).trans (spares_record ?_ _)
    rintro ⟨⟩
    exact hne rfl
  refine (hissued _ ?_ ?_).trans (spares_log ..)
  · rfl
  · rfl

theorem spares_updateNotifications (hne : other ≠ channel)
    (update : Notifications → Notifications) (controller : Controller) :
    Spares channel controller (controller.updateNotifications other update) where
  state := notificationsOf_updateNotifications_of_ne _ hne.symm
  kills := rfl
  enabled := rfl
  busy := rfl
  managed := managed_updateNotifications ..

/-! ## Other channels -/

theorem spares_abort (hne : other ≠ channel) (hother : other < 32) (controller : Controller) :
    Spares channel controller (controller.abort other) := by
  unfold abort
  split
  · exact .refl channel controller
  · exact (((spares_issue_kill hne controller).trans (spares_silence hne hother _)).trans
      (spares_log ..)).trans (spares_updateNotifications hne _ _)

/-! ## The channel itself -/

theorem kills_log (message : LogMessage) (channel : Nat) (controller : Controller) :
    (controller.log message).kills channel = controller.kills channel :=
  (spares_log message channel controller).kills

theorem kills_silence (thread : ThreadId) (channel : Nat) (controller : Controller) :
    (controller.silence thread).kills channel = controller.kills channel := by
  have hwritten : ∀ register value, ∀ controller : Controller,
      (controller.write register value).kills channel = controller.kills channel :=
    fun register value controller => List.count_cons_of_ne (by exact nofun)
  cases thread with
  | manager => rfl
  | channel other =>
      unfold silence
      dsimp only
      split
      · exact (hwritten ..).trans (hwritten ..)
      · exact hwritten ..

theorem kills_issue_kill (channel : Nat) (controller : Controller) :
    (controller.issue (.channel channel) .kill).kills channel = controller.kills channel + 1 :=
  (kills_log ..).trans List.count_cons_self

/-- An idle debug interface takes the kill. -/
theorem kills_abort (hidle : controller.isDebugBusy = false)
    (hmanaged : channel < controller.managed) (hchannel : channel < 32) :
    Kills channel controller (controller.abort channel) := by
  have hstandings : (controller.abort channel).standings channel =
      (controller.standings channel).killed := by
    rw [standings_abort_of_idle hidle hmanaged hchannel, Function.update_self]
  refine ⟨?_, ?_, ?_⟩
  · rw [abort_of_idle hidle]
    exact (kills_log ..).trans ((kills_silence ..).trans (kills_issue_kill ..))
  · rw [← enabled_standings hchannel, hstandings]
    rfl
  · exact congrArg Standing.aborted hstandings

end CyclicDma.Controller
