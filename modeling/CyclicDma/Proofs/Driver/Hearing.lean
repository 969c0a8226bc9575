import CyclicDma.Proofs.Controller.Launching
import CyclicDma.Proofs.Driver.Moves

/-! # Hearing channels through a driver

Apart from submitting, starting and stopping, nothing that a driver does starts a
channel or leads its event astray. Channels that are handed over stand as they
stood, and running ones are never handed over.
-/

namespace CyclicDma.Driver

variable {before after driver : Driver} {setup : Setup} {channel : Nat}
variable {astray : Nat → Prop}

/-- Whatever the channels may be led to, they make moves. -/
def Stands (astray : Nat → Prop) (before after : Driver) : Prop :=
  ∀ channel, (before.controller.standings channel).Moves (astray channel)
    (after.controller.standings channel)

theorem Stands.of_eq (hsame : after.controller.standings = before.controller.standings) :
    Stands astray before after := by
  intro channel
  rw [hsame]

theorem Stands.trans {middle : Driver} (hfirst : Stands astray before middle)
    (hsecond : Stands astray middle after) : Stands astray before after :=
  fun channel => (hfirst channel).trans (hsecond channel)

/-! ## Handing channels over -/

/-- The channels stand as before, or they are handed over while they do not run. -/
def Hands (before after : Driver) : Prop :=
  ∀ channel, (before.controller.standings channel).Handed (after.controller.standings channel)

theorem Hands.of_eq (hsame : after.controller.standings = before.controller.standings) :
    Hands before after := by
  intro channel
  rw [hsame]
  exact .keep _

/-- One channel is handed over. -/
theorem Hands.of_update {standing : Standing}
    (hhanded : (before.controller.standings channel).Handed standing)
    (hafter : after.controller.standings =
      Function.update before.controller.standings channel standing) : Hands before after := by
  intro other
  rw [hafter]
  by_cases hsame : other = channel
  · subst hsame
    rwa [Function.update_self]
  · rw [Function.update_of_ne hsame]
    exact .keep _

theorem Hands.stands (hhands : Hands before after) : Stands astray before after :=
  fun channel => (hhands channel).moves

theorem standings_clearChannel (channel : Nat) (driver : Driver) :
    (driver.clearChannel channel).controller.standings =
      Function.update driver.controller.standings channel
        { driver.controller.standings channel with aborted := false } := by
  have hmark : ∀ notifications : Notifications, notifications.clear.aborted = false := fun _ => rfl
  have hcleared := Controller.standings_clearAborted hmark channel
    (driver.controller.record
      (.discard channel (driver.controller.notificationsOf channel).pending))
  rwa [Controller.standings_record (fun _ => rfl)] at hcleared

/-- Clearing channels forgets which of them were aborted. -/
theorem standings_clearChannels (channels : List Nat) (driver : Driver) (channel : Nat) :
    ∃ aborted, (channels.foldl clearChannel driver).controller.standings channel =
      { driver.controller.standings channel with aborted } := by
  induction channels generalizing driver with
  | nil => exact ⟨_, rfl⟩
  | cons first channels ih =>
      obtain ⟨aborted, hcleared⟩ := ih (driver.clearChannel first)
      refine ⟨aborted, hcleared.trans ?_⟩
      rw [standings_clearChannel]
      by_cases hsame : channel = first
      · rw [hsame, Function.update_self]
      · rw [Function.update_of_ne hsame]

/-- A region is divided among channels that are free. -/
theorem hands_opened (hclosed : driver.controller.setup = none) (region : Region)
    (busAddress : UInt32) (config : Config) :
    Hands driver (driver.opened region busAddress config) := by
  intro channel
  have hvacant : (driver.controller.standings channel).request = none := by
    rw [Controller.standings, Controller.request?, hclosed]
    rfl
  obtain ⟨aborted, hcleared⟩ := standings_clearChannels (List.range
    (usableChannels (Device.ofRegisters driver.controller.registers) driver.controller)) driver
    channel
  have hopened : (driver.opened region busAddress config).controller.request? channel = none := by
    rw [Controller.request?, setup_opened, Option.bind_some, List.getElem?_replicate]
    split <;> rfl
  have hlogged : (driver.opened region busAddress config).controller.standings channel = _ :=
    congrFun (Controller.standings_log ..) channel
  refine .vacate hvacant hopened ?_ fun henabled => ?_
  · have hcommand := congrArg Standing.command hcleared
    rw [hlogged]
    exact hcommand
  · have hkept := congrArg Standing.enabled hcleared
    rw [hlogged] at henabled
    exact hkept.symm.trans henabled

/-- A region is handed back when its channels are free. -/
theorem hands_closed (hsetup : driver.controller.setup = some setup)
    (hfree : setup.requests.any (·.isSome) = false) : Hands driver (driver.closed setup) := by
  intro channel
  have hvacant : (driver.controller.standings channel).request = none := by
    rw [Controller.standings, Controller.request?, hsetup, Option.bind_some]
    cases hrequest : setup.requests[channel]? with
    | none => rfl
    | some request =>
        have hnone := List.any_eq_false.mp hfree request (List.mem_of_getElem? hrequest)
        exact Option.not_isSome_iff_eq_none.mp hnone
  obtain ⟨aborted, hcleared⟩ := standings_clearChannels
    (List.range driver.controller.managed)
    (driver.update fun controller =>
      controller.write .interruptEnable
        (controller.read .interruptEnable &&& ~~~channelBits setup.usable)) channel
  have hmasked : (driver.update fun controller => controller.write .interruptEnable
      (controller.read .interruptEnable &&& ~~~channelBits setup.usable)).controller.standings
        channel = _ := Controller.standings_write_interruptEnable ..
  rw [hmasked] at hcleared
  refine .vacate hvacant rfl ?_ fun henabled => ?_
  · have hcommand := congrArg Standing.command hcleared
    exact hcommand
  · have hmasked := congrArg Standing.enabled hcleared
    have hkept := hmasked.symm.trans henabled
    rw [Controller.bitOf_and_not, Bool.and_eq_true] at hkept
    exact hkept.1

theorem standings_released (channel : Nat) (driver : Driver) :
    (driver.released channel).controller.standings =
      Function.update driver.controller.standings channel
        { driver.controller.standings channel with request := none, aborted := false } := by
  change ((driver.clearChannel channel).controller.setRequest channel none).standings = _
  rw [Controller.standings_setRequest (.inl rfl), standings_clearChannel]
  simp only [Function.update_self, Function.update_idem]

theorem hands_released (hstopped : driver.controller.isRunning channel = false) :
    Hands driver (driver.released channel) :=
  .of_update (.release hstopped) (standings_released channel driver)

theorem hands_allocated (hsetup : driver.controller.setup = some setup)
    (hfree : setup.requests[channel]? = some none) :
    Hands driver (driver.update (·.setRequest channel (some {}))) := by
  have husable : channel < setup.usable := (List.getElem?_eq_some_iff.mp hfree).1
  have hvacant : (driver.controller.standings channel).request = none := by
    rw [Controller.standings, Controller.request?, hsetup, Option.bind_some, hfree]
    rfl
  exact .of_update (.allocate hvacant)
    (Controller.standings_setRequest (.inr ⟨setup, hsetup, husable⟩))

theorem hands_init (region : Region) (busAddress : UInt32) (config : Config) (driver : Driver) :
    Hands driver ((init region busAddress config).perform driver).2 := by
  rcases init_cases region busAddress config driver with
    ⟨error, logged, hfailed, hlogs⟩ | ⟨hclosed, -, -, hopened⟩
  · rw [hfailed]
    rcases hlogs with rfl | ⟨verbosity, message, rfl⟩
    · exact .of_eq rfl
    · exact .of_eq (Controller.standings_logAt ..)
  · rw [hopened]
    exact hands_opened hclosed region busAddress config

theorem hands_allocate (index : Option Nat) (driver : Driver) :
    Hands driver ((allocate index).perform driver).2 := by
  cases hsetup : driver.controller.setup with
  | none =>
      rw [perform_allocate_of_none hsetup]
      exact .of_eq rfl
  | some setup =>
      rw [perform_allocate hsetup]
      cases hchosen : chooseChannel index setup with
      | error error => exact .of_eq rfl
      | ok channel => exact hands_allocated hsetup (free_of_chooseChannel hchosen)

theorem hands_release (channel : Nat) (driver : Driver) :
    Hands driver ((release channel).perform driver).2 := by
  rw [perform_release]
  split
  · exact .of_eq rfl
  next hstopped => exact hands_released (Bool.eq_false_iff.mpr hstopped)

theorem hands_deinit (driver : Driver) : Hands driver (deinit.perform driver).2 := by
  cases hsetup : driver.controller.setup with
  | none =>
      rw [perform_deinit_of_none hsetup]
      exact .of_eq rfl
  | some setup =>
      rw [perform_deinit hsetup]
      split
      · exact .of_eq rfl
      next hfree => exact hands_closed hsetup (by simpa using hfree)

/-! ## Uses and moves -/

theorem standings_register (channel : Nat) (callback : Callback) (context : UInt64)
    (owner : Option Nat) (driver : Driver) :
    ((register channel callback context owner).perform driver).2.controller.standings =
      driver.controller.standings := by
  cases hregister :
      (driver.controller.notificationsOf channel).register callback context owner with
  | error error => rw [perform_register_of_error hregister]
  | ok registered =>
      rw [perform_register_of_ok hregister]
      refine Controller.standings_setNotifications ?_
      rw [Notifications.register_eq_ok hregister]

theorem standings_unregister (channel : Nat) (id : UInt32) (driver : Driver) :
    ((unregister channel id).perform driver).2.controller.standings =
      driver.controller.standings := by
  cases hunregister : (driver.controller.notificationsOf channel).unregister id with
  | error error => rw [perform_unregister_of_error hunregister]
  | ok removed =>
      rw [perform_unregister_of_ok hunregister]
      refine Controller.standings_setNotifications ?_
      rw [(Notifications.unregister_eq_ok hunregister).2]

theorem standings_pollPeriod (future : PeriodFuture) (waker : Waker) (controller : Controller) :
    (controller.pollPeriod future waker).2.standings = controller.standings := by
  unfold Controller.pollPeriod
  dsimp only
  split
  · rfl
  · split
    · rfl
    · exact Controller.standings_updateNotifications (by exact fun _ => rfl) ..

/-- Using a controller without driving its channels leads no event astray. -/
theorem Use.stands (huse : Use Disturbance.KeepsEnabled (fun _ => False) before after)
    (hmanaged : before.controller.managed ≤ 32) : Stands (fun _ => False) before after := by
  cases huse with
  | change hchanges => exact .of_eq (Controller.standings_changeAll hchanges before.controller)
  | interrupt =>
      exact fun channel => (Controller.attends_onInterrupt trivial hmanaged channel).moves
  | record event hreport =>
      exact .of_eq (Controller.standings_record hreport.drives?_eq_none before.controller)
  | @abort channel _ hchannel =>
      exact fun other => (Controller.attends_abort trivial hchannel
        (Nat.lt_of_lt_of_le hchannel hmanaged) other).moves
  | take channel =>
      have htaken : (before.controller.takePending channel).standings =
          (before.controller.updateNotifications channel Notifications.take).standings :=
        Controller.standings_record (fun _ => rfl) _
      exact .of_eq (htaken.trans
        (Controller.standings_updateNotifications (by exact fun _ => rfl) ..))
  | removeOwner owner =>
      exact .of_eq (Controller.standings_notifications (List.map_map ..))
  | poll future waker => exact .of_eq (standings_pollPeriod future waker before.controller)
  | stopManager hworld =>
      exact fun channel => (Controller.attends_stopManager hworld hmanaged channel).moves
  | submit _ hheld | start _ hheld | stop _ hheld | register hheld | unregister hheld =>
      exact hheld.elim

/-- Neither does handing channels over. -/
theorem Move.stands (hmove : Move Disturbance.KeepsEnabled (fun _ => False) before after)
    (hmanaged : before.controller.managed ≤ 32) : Stands (fun _ => False) before after := by
  cases hmove with
  | use huse => exact huse.stands hmanaged
  | init region busAddress config => exact (hands_init region busAddress config before).stands
  | allocate index => exact (hands_allocate index before).stands
  | release channel => exact (hands_release channel before).stands
  | deinit => exact (hands_deinit before).stands

theorem Moves.stands (hmoves : Moves Disturbance.KeepsEnabled (fun _ => False) before after)
    (hmanaged : before.controller.managed ≤ 32) : Stands (fun _ => False) before after := by
  induction hmoves with
  | refl => exact .of_eq rfl
  | tail hearlier hmove ih =>
      have hkept : _ = before.controller.managed := Controller.Steps.managed (Moves.steps hearlier)
      exact ih.trans (hmove.stands (hkept.trans_le hmanaged))

end CyclicDma.Driver
