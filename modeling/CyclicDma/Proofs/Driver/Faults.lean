import CyclicDma.Proofs.Controller.Striking
import CyclicDma.Proofs.Driver.Acts
import CyclicDma.Proofs.Driver.Guarding

/-! # Faulting channels are killed once

A faulting channel is killed when interrupts are handled, or by a visit of a delivery if
its kill was put off. Whatever a driver is asked for, a channel that was killed is not
killed again by either, until its slot is cleared or its holder asks for something that
drives it.
-/

namespace CyclicDma.Driver

open Controller (Strikes Handles)

variable {before middle after driver : Driver} {channel : Nat}

/-! ## Deliveries -/

/-- Some channels of the controller are killed, each of them once. -/
def StrikesSome (before after : Driver) : Prop :=
  after.controller.managed = before.controller.managed ∧
    (before.controller.managed ≤ 32 →
      ∃ channels, Strikes channels before.controller after.controller)

theorem StrikesSome.of_strikes {channels : List Nat}
    (hstrikes : Strikes channels before.controller after.controller) : StrikesSome before after :=
  ⟨hstrikes.managed, fun _ => ⟨channels, hstrikes⟩⟩

theorem StrikesSome.refl (driver : Driver) : StrikesSome driver driver :=
  .of_strikes (.refl driver.controller)

theorem StrikesSome.trans (hfirst : StrikesSome before middle)
    (hsecond : StrikesSome middle after) : StrikesSome before after := by
  refine ⟨hsecond.1.trans hfirst.1, fun hfew => ?_⟩
  obtain ⟨earlier, hearlier⟩ := hfirst.2 hfew
  obtain ⟨later, hlater⟩ := hsecond.2 (hfirst.1.symm ▸ hfew)
  exact ⟨earlier ++ later, hearlier.trans hlater⟩

theorem strikesSome_onInterrupt (driver : Driver) : StrikesSome driver driver.onInterrupt.2 := by
  obtain ⟨-, -, hmanaged, -⟩ := Controller.onInterrupt_frame driver.controller
  exact ⟨hmanaged, fun hfew => ⟨_, Controller.strikes_onInterrupt hfew⟩⟩

/-- What is only said or remembered kills nothing. -/
theorem strikes_record {event : Event} (haside : event.IsAside)
    (hevent : ∀ channel, event ≠ .issue (.channel channel) .kill) (hwrites : event.writes = [])
    (controller : Controller) : Strikes [] controller (controller.record event) := by
  have hstores : Controller.Stores event.writes controller (controller.record event) :=
    ⟨.of_event event rfl, by rw [hwrites]; rfl, rfl⟩
  have hkeeps := (Controller.aside_record haside controller).toKeeps
  exact .of_stores hstores (by simp [hwrites]) (fun _ => rfl)
    (fun channel => List.count_cons_of_ne (hevent channel)) hkeeps.clears rfl

/-- A trial kills a channel that it finds faulting, if the debug interface is idle. -/
theorem Retries.strikes (hretries : driver.Retries channel)
    (hfew : driver.controller.managed ≤ 32) :
    Strikes (if driver.controller.isDebugBusy then [] else [channel]) driver.controller
      (driver.controller.abort channel) :=
  Controller.strikes_abort hretries.managed (Nat.lt_of_lt_of_le hretries.managed hfew)
    hretries.faulting hretries.live

theorem strikes_take (channel : Nat) (driver : Driver) :
    Strikes [] driver.controller (driver.controller.takePending channel) := by
  refine .of_stores ⟨.of_event (.take channel _) rfl, rfl, rfl⟩ (by simp [Event.writes])
    (fun other => ?_) (fun _ => List.count_cons_of_ne (by simp))
    (fun _ => List.countP_cons_of_neg (by exact Bool.false_ne_true))
    (Controller.managed_updateNotifications ..)
  change ((driver.controller.updateNotifications channel Notifications.take).notificationsOf
    other).aborted = _
  rw [Controller.notificationsOf_updateNotifications]
  split
  next hboth => rw [hboth.1]; rfl
  next => rfl

theorem strikes_removeOwner (owner : Nat) (driver : Driver) :
    Strikes [] driver.controller (driver.removeOwner owner).2.controller := by
  refine .of_stores ⟨.of_history rfl, rfl, rfl⟩ (by simp) (fun channel => ?_) (fun _ => rfl)
    (fun _ => rfl) (List.length_map ..)
  rw [notificationsOf_removeOwner]
  rfl

theorem delivering_strikesSome : Delivering StrikesSome where
  refl := .refl
  trans := .trans
  record event hreport driver := by
    refine .of_strikes (strikes_record hreport.isAside ?_ ?_ driver.controller)
    · rintro _ rfl
      exact hreport
    · cases event with
      | call | interrupted | ownerRemoved | dispatched | wake => rfl
      | _ => exact hreport.elim
  abort hretries :=
    ⟨(Controller.keeps_abort ..).managed, fun hfew => ⟨_, hretries.strikes hfew⟩⟩
  take channel driver := .of_strikes (strikes_take channel driver)
  removeOwner owner driver := .of_strikes (strikes_removeOwner owner driver)
  interrupt := strikesSome_onInterrupt

/-- A visit that finds the debug interface idle kills the channel first, if it has to be
killed. -/
theorem Retries.strikes_visit (hretries : driver.Retries channel)
    (hidle : driver.controller.isDebugBusy = false) (hfew : driver.controller.managed ≤ 32)
    (depth : Nat) :
    ∃ channels, Strikes (channel :: channels) driver.controller
      (visit (reaction depth) driver channel).controller := by
  have hdue : driver.Due channel := .inr hretries.marked
  have hstrikes := hretries.strikes hfew
  rw [hidle, if_neg (by simp)] at hstrikes
  have htaken : Strikes [channel] driver.controller (driver.taken channel).controller := by
    rw [taken, retryAbort_of_retries hretries]
    exact hstrikes.trans (strikes_take channel (driver.update (·.abort channel)))
  have hcalled : StrikesSome (driver.taken channel) (visit (reaction depth) driver channel) := by
    rw [visit_of_due hdue]
    exact (delivering_strikesSome.foldl
      (delivering_strikesSome.call (delivering_strikesSome.reaction depth) channel) _ _).trans
        (delivering_strikesSome.wake _ _)
  obtain ⟨channels, hrest⟩ := hcalled.2 (htaken.managed.symm ▸ hfew)
  exact ⟨channels, htaken.trans hrest⟩

/-! ## Accounts -/

/-- Interrupts are to be handled, or periods to be delivered. -/
def Demand.IsHandling : Demand → Prop
  | interrupt | deliver _ => True
  | _ => False

/-- The number of kills of the channel and its mark agree with each other. -/
def Accounts (channel : Nat) (before after : Driver) : Prop :=
  Controller.Accounts channel before.controller after.controller

theorem Accounts.refl (channel : Nat) (driver : Driver) : Accounts channel driver driver :=
  Controller.Accounts.refl channel driver.controller

theorem Accounts.trans (hfirst : Accounts channel before middle)
    (hsecond : Accounts channel middle after) : Accounts channel before after :=
  Controller.Accounts.trans hfirst hsecond

instance : Std.Refl (Accounts channel) :=
  ⟨.refl channel⟩

instance : IsTrans Driver (Accounts channel) :=
  ⟨fun _ _ _ => .trans⟩

instance : Std.Refl StrikesSome :=
  ⟨.refl⟩

instance : IsTrans Driver StrikesSome :=
  ⟨fun _ _ _ => .trans⟩

theorem StrikesSome.accounts (hstrikes : StrikesSome before after) (channel : Nat) :
    Accounts channel before after := by
  refine ⟨hstrikes.1, fun hfew => ?_, fun hfew => ?_⟩
  all_goals obtain ⟨channels, hstruck⟩ := hstrikes.2 hfew
  · exact (hstruck.accounts channel).cleared hfew
  · exact (hstruck.accounts channel).balance hfew

/-- A slot that is cleared closes the account of its channel. -/
theorem accounts_clearChannel (channel cleared : Nat) (driver : Driver) :
    Accounts channel driver (driver.clearChannel cleared) := by
  have hmanaged : (driver.clearChannel cleared).controller.managed = driver.controller.managed :=
    Controller.managed_updateNotifications ..
  by_cases hsame : cleared = channel
  · subst hsame
    have hclears : (driver.clearChannel cleared).controller.clears cleared =
        driver.controller.clears cleared + 1 :=
      List.countP_cons_of_pos (by simp [Event.clears])
    exact ⟨hmanaged, fun _ => by omega, fun _ hkept => by omega⟩
  · refine .of_eq hmanaged (List.countP_cons_of_neg (by simp [Event.clears, hsame]))
      (List.count_cons_of_ne (by simp)) ?_
    exact congrArg Notifications.aborted
      (Controller.notificationsOf_updateNotifications_of_ne _ (Ne.symm hsame))

theorem accounts_clearChannels (channel : Nat) (channels : List Nat) (driver : Driver) :
    Accounts channel driver (channels.foldl clearChannel driver) := by
  induction channels generalizing driver with
  | nil => exact .refl channel driver
  | cons cleared rest ih => exact (accounts_clearChannel channel cleared driver).trans (ih _)

/-! ### Demands -/

theorem accounts_init (channel : Nat) (region : Region) (busAddress : UInt32) (config : Config)
    (driver : Driver) :
    Accounts channel driver ((init region busAddress config).perform driver).2 := by
  rcases init_cases region busAddress config driver with
    ⟨error, logged, hfailed, hlogs⟩ | ⟨-, -, -, hopened⟩
  · rw [hfailed]
    rcases hlogs with rfl | ⟨verbosity, message, rfl⟩
    · exact .refl channel logged
    · exact Controller.accounts_logAt ..
  · rw [hopened]
    refine (accounts_clearChannels channel (List.range (usableChannels
      (Device.ofRegisters driver.controller.registers) driver.controller)) driver).trans ?_
    refine Controller.Accounts.trans ?_ (Controller.accounts_log ..)
    exact .of_eq rfl rfl rfl rfl

theorem accounts_allocate (channel : Nat) (channel? : Option Nat) (driver : Driver) :
    Accounts channel driver ((allocate channel?).perform driver).2 := by
  cases hsetup : driver.controller.setup with
  | none =>
      rw [perform_allocate_of_none hsetup]
      exact .refl channel driver
  | some setup =>
      rw [perform_allocate hsetup]
      cases chooseChannel channel? setup with
      | error error => exact .refl channel driver
      | ok allocated => exact .of_eq rfl rfl rfl rfl

theorem accounts_release (channel released : Nat) (driver : Driver) :
    Accounts channel driver ((release released).perform driver).2 := by
  rw [perform_release]
  split
  · exact .refl channel driver
  · refine (accounts_clearChannel channel released driver).trans ?_
    exact .of_eq rfl rfl rfl rfl

theorem accounts_deinit (channel : Nat) (driver : Driver) :
    Accounts channel driver (deinit.perform driver).2 := by
  cases hsetup : driver.controller.setup with
  | none =>
      rw [perform_deinit_of_none hsetup]
      exact .refl channel driver
  | some setup =>
      rw [perform_deinit hsetup]
      split
      · exact .refl channel driver
      · have hmasked : Accounts channel driver (driver.update fun controller =>
            controller.write .interruptEnable
              (controller.read .interruptEnable &&& ~~~channelBits setup.usable)) :=
          Controller.accounts_write ..
        refine (hmasked.trans (accounts_clearChannels channel
          (List.range driver.controller.managed) _)).trans ?_
        exact .of_eq rfl rfl rfl rfl

/-- Registering and unregistering leave the mark of a channel alone. -/
theorem accounts_register (channel registered : Nat) (callback : Callback) (context : UInt64)
    (owner : Option Nat) (driver : Driver) :
    Accounts channel driver
      ((register registered callback context owner).perform driver).2 := by
  cases hregister :
      (driver.controller.notificationsOf registered).register callback context owner with
  | error error =>
      rw [perform_register_of_error hregister]
      exact .refl channel driver
  | ok registration =>
      rw [perform_register_of_ok hregister]
      refine Controller.accounts_updateNotifications ?_
      rintro rfl
      rw [Notifications.register_eq_ok hregister]

theorem accounts_unregister (channel registered : Nat) (id : UInt32) (driver : Driver) :
    Accounts channel driver ((unregister registered id).perform driver).2 := by
  cases hunregister : (driver.controller.notificationsOf registered).unregister id with
  | error error =>
      rw [perform_unregister_of_error hunregister]
      exact .refl channel driver
  | ok removed =>
      rw [perform_unregister_of_ok hunregister]
      refine Controller.accounts_updateNotifications ?_
      rintro rfl
      rw [(Notifications.unregister_eq_ok hunregister).2]

theorem accounts_poll (channel : Nat) (future : PeriodFuture) (waker : Waker) (driver : Driver) :
    Accounts channel driver ((Demand.poll future waker).perform driver) := by
  rcases Controller.pollPeriod_cases future waker driver.controller with
    ⟨result, hready⟩ | hpending
  · rw [Demand.perform, hready]
    exact .refl channel driver
  · rw [Demand.perform, hpending]
    exact Controller.accounts_updateNotifications fun _ => rfl

/-- Whatever else a driver is asked for keeps the account of a channel. -/
theorem Demand.accounts {demand : Demand} (hdrives : ¬ demand.Drives channel) (driver : Driver) :
    Accounts channel driver (demand.perform driver) := by
  cases demand with
  | change changes => exact Controller.accounts_changeAll ..
  | interrupt => exact Controller.accounts_onInterrupt ..
  | interrupted handled =>
      have haside : (Event.interrupted handled).IsAside := trivial
      exact (strikes_record haside (by exact nofun) rfl driver.controller).accounts channel
  | deliver depth => exact (delivering_strikesSome.dispatchNested depth driver).accounts channel
  | removeOwner owner => exact (strikes_removeOwner owner driver).accounts channel
  | poll future waker => exact accounts_poll channel future waker driver
  | stopManager world =>
      have hmanager : ThreadId.manager ≠ .channel channel := by exact nofun
      exact (Controller.accounts_stopping hmanager).stopThread world driver.controller
  | submit world driven order =>
      have hne : driven ≠ channel := fun hsame => hdrives (hsame ▸ .submit ..)
      exact (Controller.accounts_submitting hne).submit world order driver.controller
  | start world driven =>
      have hne : driven ≠ channel := fun hsame => hdrives (hsame ▸ .start ..)
      exact (Controller.accounts_submitting hne).toStarting.start world driver.controller
  | stop world driven =>
      have hne : driven ≠ channel := fun hsame => hdrives (hsame ▸ .stop ..)
      exact (Controller.accounts_submitting hne).toStarting.stop world driver.controller
  | register registered callback context owner =>
      exact accounts_register channel registered callback context owner driver
  | unregister registered id => exact accounts_unregister channel registered id driver
  | init region busAddress config => exact accounts_init channel region busAddress config driver
  | allocate channel? => exact accounts_allocate channel channel? driver
  | release released => exact accounts_release channel released driver
  | deinit => exact accounts_deinit channel driver

/-! ## Interrupts and deliveries -/

/-- Handling interrupts and delivering periods kills channels, each of them once. -/
theorem Demand.strikesSome {demand : Demand} (hhandling : demand.IsHandling) (driver : Driver) :
    StrikesSome driver (demand.perform driver) := by
  cases demand with
  | interrupt => exact strikesSome_onInterrupt driver
  | deliver depth => exact delivering_strikesSome.dispatchNested depth driver
  | _ => exact hhandling.elim

/-- Whatever the registers and the state of a driver are: handling interrupts acknowledges
what is raised and enabled, counts a period for each managed channel among these events (as
far as the counter goes), marks the managed channels that are faulting, and kills those of
them that were not killed before, unless the debug interface is busy. A kill names the
channel. A visit of a delivery kills a channel if its fault is still marked. However often
interrupts are handled and periods are delivered, kills are all that is written besides
acknowledgements; they concern channels that are faulting, each of them once. Until its slot
is cleared or its holder drives it, a channel is killed once at most, whatever else the
driver is asked for and whatever the registers become in the meantime. -/
theorem faults_killed_once (driver : Driver)
    (hmanaged : driver.controller.managed ≤ Register.maxChannels) :
    Handles driver.controller driver.onInterrupt.1 driver.onInterrupt.2.controller ∧
    (∀ channel ∈ driver.controller.struck,
      Command.addressee (Command.kill.firstWord (.channel channel)) = .channel channel ∧
        Command.firstByteField.get (Command.kill.firstWord (.channel channel)) = 1) ∧
    (∀ channel, ¬ driver.Retries channel ∨ driver.controller.isDebugBusy = true →
      driver.retryAbort channel = driver) ∧
    (∀ channel depth, driver.Retries channel → driver.controller.isDebugBusy = false →
      Strikes [channel] driver.controller (driver.retryAbort channel).controller ∧
        ∃ channels, Strikes (channel :: channels) driver.controller
          (visit (reaction depth) driver channel).controller) ∧
    (∀ later, Serves Demand.IsHandling driver later →
      ∃ channels, Strikes channels driver.controller later.controller) ∧
    ∀ channel later, Serves (¬ ·.Drives channel) driver later →
      later.controller.clears channel = driver.controller.clears channel →
      later.controller.kills channel ≤ driver.controller.kills channel + 1 ∧
        later.controller.kills channel +
            (driver.controller.notificationsOf channel).aborted.toNat =
          driver.controller.kills channel +
            (later.controller.notificationsOf channel).aborted.toNat := by
  have hfew : driver.controller.managed ≤ 32 := hmanaged.trans (by decide)
  refine ⟨Controller.handles_onInterrupt hfew, fun channel hmem => ?_, fun channel hspared => ?_,
    fun channel depth hretries hidle => ⟨?_, hretries.strikes_visit hidle hfew depth⟩,
    fun later hserves => ?_, fun channel later hserves hkept => ?_⟩
  · have hexists : (ThreadId.channel channel).Exists :=
      Nat.lt_of_lt_of_le (Controller.mem_struck.mp hmem).2.1 hmanaged
    obtain ⟨haddressee, hbyte, -⟩ := Command.addressee_kill hexists
    exact ⟨haddressee, hbyte⟩
  · rcases hspared with hnone | hbusy
    · exact retryAbort_of_not_retries hnone
    · exact retryAbort_of_busy hbusy channel
  · have hstrikes := hretries.strikes hfew
    rw [hidle, if_neg (by simp)] at hstrikes
    rw [retryAbort_of_retries hretries]
    exact hstrikes
  · exact (hserves.follow fun _ => Demand.strikesSome : StrikesSome driver later).2 hfew
  · have haccounts : Accounts channel driver later := hserves.follow fun _ => Demand.accounts
    have hbalance := haccounts.balance hfew hkept
    have hmark := Bool.toNat_le (later.controller.notificationsOf channel).aborted
    exact ⟨by omega, hbalance⟩

/-- Two channels of three are faulting when their events and another one are raised. -/
def faultyDriver : Driver where
  controller :=
    { registers := ((Registers.zero.write .interruptEnable 0xFF).write .eventStatus 0x16).write
        .channelFaultStatus 0x15
      config := {}
      setup := none
      notifications := List.replicate 3 {}
      clock := 0
      history := [] }
  references := []

/-- The two are killed at once, and their events are masked. Neither is killed again when
periods were delivered and interrupts are handled once more. -/
theorem faults_killed_once_faulty :
    faultyDriver.controller.managed ≤ Register.maxChannels ∧
    faultyDriver.controller.struck = [0, 2] ∧
    Controller.Stores
      [(.interruptClear, 0x16),
        (.debugInstruction0, 0x10001), (.debugInstruction1, 0), (.debugCommand, 0),
        (.interruptClear, 0x01), (.interruptEnable, 0xFE),
        (.debugInstruction0, 0x10201), (.debugInstruction1, 0), (.debugCommand, 0),
        (.interruptClear, 0x04), (.interruptEnable, 0xFA)]
      faultyDriver.controller faultyDriver.onInterrupt.2.controller ∧
    ∀ channel ∈ [0, 2],
      (faultyDriver.onInterrupt.2.dispatchNested 1).onInterrupt.2.controller.kills channel = 1 := by
  have hmanaged : faultyDriver.controller.managed ≤ Register.maxChannels := by decide
  obtain ⟨hhandles, -, -, -, -, hruns⟩ := faults_killed_once faultyDriver hmanaged
  have hwrites : (Controller.acknowledgement faultyDriver.controller.raised).flatMap Event.writes ++
      Controller.killAllWrites (faultyDriver.controller.read .interruptEnable)
        faultyDriver.controller.struck =
      [(.interruptClear, 0x16),
        (.debugInstruction0, 0x10001), (.debugInstruction1, 0), (.debugCommand, 0),
        (.interruptClear, 0x01), (.interruptEnable, 0xFE),
        (.debugInstruction0, 0x10201), (.debugInstruction1, 0), (.debugCommand, 0),
        (.interruptClear, 0x04), (.interruptEnable, 0xFA)] := by
    decide
  refine ⟨hmanaged, by decide, hwrites ▸ hhandles.stores, fun channel hmem => ?_⟩
  have hserves : Serves (¬ ·.Drives channel) faultyDriver
      (faultyDriver.onInterrupt.2.dispatchNested 1).onInterrupt.2 :=
    ((Relation.ReflTransGen.refl.tail ⟨.interrupt, by exact nofun, rfl⟩).tail
      ⟨.deliver 1, by exact nofun, rfl⟩).tail ⟨.interrupt, by exact nofun, rfl⟩
  have hfacts : ∀ channel ∈ [0, 2],
      (faultyDriver.controller.notificationsOf channel).aborted = false ∧
        (faultyDriver.onInterrupt.2.dispatchNested 1).onInterrupt.2.controller.clears channel =
          faultyDriver.controller.clears channel ∧
        ((faultyDriver.onInterrupt.2.dispatchNested 1).onInterrupt.2.controller.notificationsOf
          channel).aborted = true := by
    decide
  obtain ⟨hlive, hkept, hmarked⟩ := hfacts channel hmem
  obtain ⟨-, hbalance⟩ := hruns channel _ hserves hkept
  rw [hlive, hmarked] at hbalance
  exact hbalance

end CyclicDma.Driver
