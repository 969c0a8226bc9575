import CyclicDma.Proofs.Controller.Assignment
import CyclicDma.Proofs.Controller.Hearing

/-! # Attending to interrupts

Whatever happens at a controller while its driver waits, channels stand as they
stood before, unless interrupts are handled and a channel is killed for a fault.
Nobody but the driver may change which events are enabled.
-/

namespace CyclicDma

/-- The disturbance does not change which events are enabled. -/
def Disturbance.KeepsEnabled (disturbance : Disturbance) : Prop :=
  ∀ value, disturbance ≠ .change .interruptEnable value

/-- Interrupts are handled while a driver waits. -/
def World.Interrupts (world : World) : Prop :=
  ∃ time, Disturbance.interrupt ∈ world time

theorem World.Interrupts.of_delayed {world : World} {start : Nat}
    (hinterrupts : (world.delayed start).Interrupts) : world.Interrupts := by
  obtain ⟨time, hmem⟩ := hinterrupts
  unfold World.delayed at hmem
  split at hmem
  · exact ⟨_, hmem⟩
  · exact absurd hmem List.not_mem_nil

namespace Standing

variable {interrupted : Prop} {before middle after : Standing}

/-- The channel stands as before, or the interrupt handler killed it. -/
def Attends (interrupted : Prop) (before after : Standing) : Prop :=
  after = before ∨ interrupted ∧ after = before.killed

theorem Attends.refl (standing : Standing) : Attends interrupted standing standing :=
  .inl rfl

theorem Attends.trans (hfirst : Attends interrupted before middle)
    (hsecond : Attends interrupted middle after) : Attends interrupted before after := by
  rcases hsecond with rfl | ⟨hinterrupted, rfl⟩
  · exact hfirst
  · refine .inr ⟨hinterrupted, ?_⟩
    rcases hfirst with rfl | ⟨-, rfl⟩
    · rfl
    · rfl

theorem Attends.moves {astray : Prop} (hattends : Attends interrupted before after) :
    Moves astray before after := by
  rcases hattends with rfl | ⟨-, rfl⟩
  · exact .refl
  · exact .single (.kill before)

end Standing

namespace Controller

variable {interrupted : Prop} {before middle after controller : Controller} {channel : Nat}

/-- The channels stand as before, or the interrupt handler killed them. -/
def Attends (interrupted : Prop) (before after : Controller) : Prop :=
  ∀ channel, (before.standings channel).Attends interrupted (after.standings channel)

theorem Attends.refl (controller : Controller) : Attends interrupted controller controller :=
  fun _ => .refl _

theorem Attends.trans (hfirst : Attends interrupted before middle)
    (hsecond : Attends interrupted middle after) : Attends interrupted before after :=
  fun channel => (hfirst channel).trans (hsecond channel)

theorem Attends.of_eq (hsame : after.standings = before.standings) :
    Attends interrupted before after :=
  fun channel => .inl (congrFun hsame channel)

/-! ## Interrupts -/

/-- An idle debug interface takes the kill. -/
theorem standings_abort_of_idle (hidle : controller.isDebugBusy = false)
    (hmanaged : channel < controller.managed) (hchannel : channel < 32) :
    (controller.abort channel).standings =
      Function.update controller.standings channel (controller.standings channel).killed := by
  have hkept : channel < ((controller.issue (.channel channel) .kill
      |>.silence (.channel channel)).log (.aborted (.channel channel))).managed := by
    rw [(aside_log ..).managed, (aside_silence ..).managed, (aside_issue_kill ..).managed]
    exact hmanaged
  rw [abort_of_idle hidle, standings_setAborted hkept (by exact fun _ => rfl),
    standings_log, standings_silence hchannel, standings_issue_kill]
  simp only [Function.update_self, Function.update_idem]
  rfl

theorem standings_abort (hmanaged : channel < controller.managed) (hchannel : channel < 32) :
    (controller.abort channel).standings = controller.standings ∨
      (controller.abort channel).standings =
        Function.update controller.standings channel (controller.standings channel).killed := by
  cases hbusy : controller.isDebugBusy with
  | true => exact .inl (by rw [abort_of_busy hbusy])
  | false => exact .inr (standings_abort_of_idle hbusy hmanaged hchannel)

theorem attends_abort (hinterrupted : interrupted) (hmanaged : channel < controller.managed)
    (hchannel : channel < 32) : Attends interrupted controller (controller.abort channel) := by
  intro other
  rcases standings_abort hmanaged hchannel with hsame | hkilled
  · exact .inl (congrFun hsame other)
  · rw [hkilled]
    by_cases hother : other = channel
    · rw [hother, Function.update_self]
      exact .inr ⟨hinterrupted, rfl⟩
    · rw [Function.update_of_ne hother]
      exact .refl _

theorem attends_onFault (hinterrupted : interrupted) (hmanaged : channel < controller.managed)
    (hchannel : channel < 32) : Attends interrupted controller (controller.onFault channel) := by
  have hnoted : Attends interrupted controller
      ((controller.updateNotifications channel ({ · with faulted := true })).log
        (.channelFault channel ⟨controller.read (.faultType channel)⟩)) :=
    .of_eq ((standings_log ..).trans (standings_updateNotifications (by exact fun _ => rfl) ..))
  have hkept : channel < ((controller.updateNotifications channel ({ · with faulted := true })).log
      (.channelFault channel ⟨controller.read (.faultType channel)⟩)).managed := by
    rw [(aside_log ..).managed, managed_updateNotifications]
    exact hmanaged
  unfold onFault
  dsimp only
  split
  · exact hnoted
  · split
    · exact hnoted.trans (attends_abort hinterrupted hkept hchannel)
    · exact (hnoted.trans (attends_abort hinterrupted hkept hchannel)).trans
        (.of_eq (standings_log ..))

theorem attends_serveChannel (hinterrupted : interrupted) (hmanaged : channel < controller.managed)
    (hchannel : channel < 32) (raised faults : UInt32) :
    Attends interrupted controller (controller.serveChannel raised faults channel) := by
  have hcounted : Attends interrupted controller
      (if hasChannel raised channel then
        controller.updateNotifications channel Notifications.addPending
      else controller) := by
    split
    · exact .of_eq (standings_updateNotifications (by exact fun _ => rfl) ..)
    · exact .refl controller
  have hkept : channel < (if hasChannel raised channel then
      controller.updateNotifications channel Notifications.addPending else controller).managed := by
    split
    · rwa [managed_updateNotifications]
    · exact hmanaged
  unfold serveChannel
  dsimp only
  split
  · exact hcounted.trans (attends_onFault hinterrupted hkept hchannel)
  · exact hcounted

theorem attends_serveChannels (hinterrupted : interrupted) {channels : List Nat}
    (hchannels : ∀ channel ∈ channels, channel < controller.managed ∧ channel < 32)
    (raised faults : UInt32) :
    Attends interrupted controller (channels.foldl (serveChannel raised faults) controller) := by
  induction channels generalizing controller with
  | nil => exact .refl controller
  | cons channel channels ih =>
      obtain ⟨⟨hfirst, hchannel⟩, hothers⟩ := List.forall_mem_cons.mp hchannels
      refine (attends_serveChannel hinterrupted hfirst hchannel raised faults).trans (ih ?_)
      rwa [(keeps_serveChannel ..).managed]

/-- Handling interrupts may kill channels. -/
theorem attends_onInterrupt (hinterrupted : interrupted) (hmanaged : controller.managed ≤ 32) :
    Attends interrupted controller controller.onInterrupt.2 := by
  unfold onInterrupt
  dsimp only
  generalize controller.read .interruptEnable &&& controller.read .eventStatus = raised
  have hacknowledged : Attends interrupted controller
        (if raised = 0 then controller else controller.acknowledge raised) ∧
      (if raised = 0 then controller else controller.acknowledge raised).managed =
        controller.managed := by
    split
    · exact ⟨.refl controller, rfl⟩
    · exact ⟨.of_eq (standings_acknowledge ..), rfl⟩
  generalize (if raised = 0 then controller else controller.acknowledge raised) = acknowledged
    at hacknowledged ⊢
  have hreported : ∀ reported, Aside acknowledged reported →
      reported.standings = acknowledged.standings → Attends interrupted controller
        ((List.range reported.managed).foldl
          (serveChannel raised (acknowledged.read .channelFaultStatus)) reported) := by
    intro reported haside hsame
    refine (hacknowledged.1.trans (.of_eq hsame)).trans
      (attends_serveChannels hinterrupted (fun channel hmem => ?_) _ _)
    have hlt := List.mem_range.mp hmem
    exact ⟨hlt, Nat.lt_of_lt_of_le hlt ((haside.managed.trans hacknowledged.2).trans_le hmanaged)⟩
  -- a fault of the manager is only reported
  split
  · exact hreported _ (aside_log ..) (standings_log ..)
  · exact hreported _ (.refl _) rfl

/-! ## Waits -/

variable {world : World}

/-- What holds of registers that change on their own. -/
theorem standings_changeAll {changes : List (Register × UInt32)}
    (hchanges : ∀ change ∈ changes, Disturbance.KeepsEnabled (.change change.1 change.2))
    (controller : Controller) : (controller.changeAll changes).standings = controller.standings := by
  unfold changeAll
  induction changes generalizing controller with
  | nil => rfl
  | cons change changes ih =>
      obtain ⟨hfirst, hothers⟩ := List.forall_mem_cons.mp hchanges
      obtain ⟨register, value⟩ := change
      rw [List.foldl_cons, ih hothers]
      refine standings_change (fun hregister => ?_) value controller
      subst hregister
      exact hfirst value rfl

theorem attends_disturb {disturbance : Disturbance} (hkeeps : disturbance.KeepsEnabled)
    (hinterrupted : disturbance = .interrupt → interrupted) (hmanaged : controller.managed ≤ 32) :
    Attends interrupted controller (controller.disturb disturbance) := by
  cases disturbance with
  | change register value =>
      refine .of_eq (standings_change (fun hregister => ?_) value controller)
      subst hregister
      exact hkeeps value rfl
  | interrupt => exact attends_onInterrupt (hinterrupted rfl) hmanaged

theorem attends_disturbances {disturbances : List Disturbance}
    (hallowed : ∀ disturbance ∈ disturbances, disturbance.KeepsEnabled ∧
      (disturbance = .interrupt → interrupted)) (hmanaged : controller.managed ≤ 32) :
    Attends interrupted controller (disturbances.foldl disturb controller) := by
  induction disturbances generalizing controller with
  | nil => exact .refl controller
  | cons disturbance disturbances ih =>
      obtain ⟨⟨hkeeps, hinterrupts⟩, hothers⟩ := List.forall_mem_cons.mp hallowed
      refine (attends_disturb hkeeps hinterrupts hmanaged).trans (ih hothers ?_)
      exact ((waits_disturb ..).steps.sameAssignment.managed).trans_le hmanaged

theorem attends_pause (hworld : world.Causes Disturbance.KeepsEnabled)
    (hmanaged : controller.managed ≤ 32) :
    Attends world.Interrupts controller (controller.pause world) := by
  refine (Attends.of_eq (standings_tick controller)).trans (attends_disturbances ?_ hmanaged)
  intro disturbance hmem
  exact ⟨hworld _ disturbance hmem, fun hinterrupt => ⟨_, hinterrupt ▸ hmem⟩⟩

theorem attends_waitFor (hworld : world.Causes Disturbance.KeepsEnabled)
    (condition : Controller → Bool) (microseconds : Nat) (controller : Controller)
    (hmanaged : controller.managed ≤ 32) :
    Attends world.Interrupts controller (waitFor world condition microseconds controller).2 := by
  induction microseconds generalizing controller with
  | zero => exact .refl controller
  | succ microseconds ih =>
      unfold waitFor
      split
      · exact .refl controller
      · refine (attends_pause hworld hmanaged).trans (ih _ ?_)
        exact ((waits_pause ..).steps.sameAssignment.managed).trans_le hmanaged

/-- The condition that was waited for holds when the wait is over in time. -/
theorem condition_of_waitFor {condition : Controller → Bool} {microseconds : Nat}
    (hreached : waitFor world condition microseconds controller = (true, after)) :
    condition after = true := by
  induction microseconds generalizing controller with
  | zero =>
      obtain ⟨hcondition, rfl⟩ := Prod.mk.inj hreached
      exact hcondition
  | succ microseconds ih =>
      unfold waitFor at hreached
      split at hreached
      next hcondition =>
        cases hreached
        exact hcondition
      next => exact ih hreached

/-- The channel reaches an accepted state, or it is given up after some time. -/
theorem awaitState_cases (hworld : world.Causes Disturbance.KeepsEnabled)
    (hmanaged : controller.managed ≤ 32) (channel : Nat) (accept : ChannelState → Bool) :
    (∃ reached, Attends world.Interrupts controller reached ∧
      reached.managed = controller.managed ∧ accept (reached.channelState channel) = true ∧
      (awaitState world channel accept).perform controller =
        (.ok (reached.channelState channel), reached)) ∨
    ∃ stuck, Attends world.Interrupts controller stuck ∧
      (awaitState world channel accept).perform controller = (.error .timeout, stuck) := by
  have hattends := attends_waitFor hworld (fun controller => accept (controller.channelState channel))
    waitBound controller hmanaged
  have hkept := (waits_waitFor world (fun controller => accept (controller.channelState channel))
    waitBound controller).steps.sameAssignment.managed
  rw [perform_awaitState]
  cases hwaited : waitFor world (fun controller => accept (controller.channelState channel))
      waitBound controller with
  | mk reached waited =>
      rw [hwaited] at hattends hkept
      cases reached with
      | true => exact .inl ⟨waited, hattends, hkept, condition_of_waitFor hwaited, rfl⟩
      | false => exact .inr ⟨_, hattends.trans (.of_eq (standings_log ..)), rfl⟩

/-- A command is handed over if the debug interface gets idle in time. -/
theorem execute_cases (hworld : world.Causes Disturbance.KeepsEnabled)
    (hmanaged : controller.managed ≤ 32) (thread : ThreadId) (command : Command) :
    ∃ waited, Attends world.Interrupts controller waited ∧
      ((execute world thread command).perform controller =
          (.ok true, waited.issue thread command) ∨
        (execute world thread command).perform controller =
          (.ok false, waited.log (.dropped command thread))) := by
  have hattends := attends_waitFor hworld (!·.isDebugBusy) waitBound controller hmanaged
  rw [perform_execute]
  cases hwaited : waitFor world (!·.isDebugBusy) waitBound controller with
  | mk idle waited =>
      rw [hwaited] at hattends
      cases idle with
      | true => exact ⟨waited, hattends, .inl rfl⟩
      | false => exact ⟨waited, hattends, .inr rfl⟩

end Controller

end CyclicDma
