import CyclicDma.Proofs.Driver.Operations

/-! # Allocation in full

What becomes of a driver when its controller is initialized, when a channel is
allocated or released, and when the region is handed back.
-/

namespace CyclicDma.Driver

variable {driver : Driver} {setup : Setup} {channel : Nat} {region : Region} {config : Config}

/-! ## Choosing a channel -/

theorem chooseChannel_some_eq_ok {index : Nat} :
    chooseChannel (some index) setup = .ok channel ↔
      channel = index ∧ setup.requests[index]? = some none := by
  simp only [chooseChannel]
  cases setup.requests[index]? with
  | none => simp
  | some request => cases request <;> simp [eq_comm]

/-- The first free channel is chosen where none is asked for. -/
theorem chooseChannel_none_eq_ok :
    chooseChannel none setup = .ok channel ↔
      setup.requests[channel]? = some none ∧
        ∀ lower < channel, setup.requests[lower]? ≠ some none := by
  have hchosen : chooseChannel none setup = .ok channel ↔
      setup.requests.findIdx? (·.isNone) = some channel := by
    unfold chooseChannel
    cases setup.requests.findIdx? (·.isNone) <;> simp
  rw [hchosen, List.findIdx?_eq_some_iff_getElem]
  constructor
  · rintro ⟨hlt, hnone, hlower⟩
    refine ⟨?_, fun lower hbelow hfree => ?_⟩
    · rw [List.getElem?_eq_getElem hlt, Option.isNone_iff_eq_none.mp hnone]
    · obtain ⟨hin, hfree⟩ := List.getElem?_eq_some_iff.mp hfree
      exact hlower lower hbelow (by rw [hfree]; rfl)
  · rintro ⟨hfree, hlower⟩
    obtain ⟨hlt, hnone⟩ := List.getElem?_eq_some_iff.mp hfree
    refine ⟨hlt, by rw [hnone]; rfl, fun lower hbelow hfree => ?_⟩
    refine hlower lower hbelow ?_
    rw [List.getElem?_eq_getElem (hbelow.trans hlt), Option.isNone_iff_eq_none.mp hfree]

/-- Only a lack of free channels keeps the driver from choosing one itself. -/
theorem chooseChannel_none_eq_error {error : DmaError} :
    chooseChannel none setup = .error error ↔
      error = .resourceExhausted ∧ ∀ channel : Nat, setup.requests[channel]? ≠ some none := by
  have hchosen : chooseChannel none setup = .error error ↔
      error = .resourceExhausted ∧ setup.requests.findIdx? (·.isNone) = none := by
    unfold chooseChannel
    cases setup.requests.findIdx? (·.isNone) <;> simp [eq_comm]
  rw [hchosen, List.findIdx?_eq_none_iff]
  refine and_congr_right fun _ => ⟨fun hheld channel hfree => ?_, fun hheld request hmem => ?_⟩
  · have hnone := hheld none (List.mem_of_getElem? hfree)
    cases hnone
  · obtain ⟨channel, hchannel⟩ := List.mem_iff_getElem?.mp hmem
    cases request with
    | none => exact absurd hchannel (hheld channel)
    | some request => rfl

theorem free_of_chooseChannel {index : Option Nat} (hchosen : chooseChannel index setup = .ok channel) :
    setup.requests[channel]? = some none := by
  cases index with
  | none => exact (chooseChannel_none_eq_ok.mp hchosen).1
  | some index =>
      obtain ⟨rfl, hfree⟩ := chooseChannel_some_eq_ok.mp hchosen
      exact hfree

/-! ## The drivers afterwards -/

/-- The driver once its region is divided. -/
def opened (region : Region) (busAddress : UInt32) (config : Config) (driver : Driver) : Driver :=
  let device := Device.ofRegisters driver.controller.registers
  let usable := usableChannels device driver.controller
  (((List.range usable).foldl clearChannel driver).update ({ · with
      config
      setup := some { device, region, busAddress, requests := List.replicate usable none } })).update
    (·.log (.initialized device.identification device.channels device.peripherals device.events
      usable))

theorem setup_opened (region : Region) (busAddress : UInt32) (config : Config) (driver : Driver) :
    (driver.opened region busAddress config).controller.setup =
      some
        { device := Device.ofRegisters driver.controller.registers
          region
          busAddress
          requests := List.replicate
            (usableChannels (Device.ofRegisters driver.controller.registers) driver.controller)
            none } :=
  (Controller.aside_log _ _).setup

/-- The driver once its region is handed back. -/
def closed (setup : Setup) (driver : Driver) : Driver :=
  let masked := driver.update fun controller =>
    controller.write .interruptEnable
      (controller.read .interruptEnable &&& ~~~channelBits setup.usable)
  ((List.range masked.controller.managed).foldl clearChannel masked).update ({ · with setup := none })

/-- The driver once a channel is given back. -/
def released (channel : Nat) (driver : Driver) : Driver :=
  (driver.clearChannel channel).update (·.setRequest channel none)

/-- The driver is as before, apart from a message. -/
def Logs (before after : Driver) : Prop :=
  after = before ∨ ∃ verbosity message, after = before.update (·.logAt verbosity message)

theorem Logs.references {before after : Driver} (hlogs : Logs before after) :
    after.references = before.references := by
  rcases hlogs with rfl | ⟨verbosity, message, rfl⟩ <;> rfl

theorem Logs.aside {before after : Driver} (hlogs : Logs before after) :
    Controller.Aside before.controller after.controller := by
  rcases hlogs with rfl | ⟨verbosity, message, rfl⟩
  · exact .refl _
  · exact Controller.aside_logAt ..

theorem perform_init_of_unsupported
    (hunsupported : ¬ config.SupportedBy (Device.ofRegisters driver.controller.registers))
    (region : Region) (busAddress : UInt32) :
    (init region busAddress config).perform driver =
      (.error .invalidTransfer, driver.update (·.logAt config.verbosity
        (.unsupportedBurst config.burstLength config.burstSize
          (Device.ofRegisters driver.controller.registers).busWidth))) := by
  unfold init
  rw [Attempt.perform_bind, Attempt.perform_get]
  dsimp only
  rw [if_pos hunsupported]
  rfl

/-- A region with fewer bytes than the slabs of the usable channels is too small. -/
theorem perform_init_of_small
    (hsupported : config.SupportedBy (Device.ofRegisters driver.controller.registers))
    (hsmall : region.bytes.length < Region.slabBytes *
      usableChannels (Device.ofRegisters driver.controller.registers) driver.controller)
    (busAddress : UInt32) :
    (init region busAddress config).perform driver = (.error .resourceExhausted, driver) := by
  unfold init
  rw [Attempt.perform_bind, Attempt.perform_get]
  dsimp only
  rw [if_neg (not_not_intro hsupported), if_pos hsmall]
  rfl

theorem perform_init_of_setup
    (hsupported : config.SupportedBy (Device.ofRegisters driver.controller.registers))
    (hregion : Region.slabBytes *
      usableChannels (Device.ofRegisters driver.controller.registers) driver.controller ≤
        region.bytes.length)
    (hopen : driver.controller.setup = some setup) (busAddress : UInt32) :
    (init region busAddress config).perform driver = (.error .busy, driver) := by
  unfold init
  rw [Attempt.perform_bind, Attempt.perform_get]
  dsimp only
  rw [if_neg (not_not_intro hsupported), if_neg (Nat.not_lt_of_le hregion), hopen]
  rfl

theorem perform_init
    (hsupported : config.SupportedBy (Device.ofRegisters driver.controller.registers))
    (hregion : Region.slabBytes *
      usableChannels (Device.ofRegisters driver.controller.registers) driver.controller ≤
        region.bytes.length)
    (hclosed : driver.controller.setup = none) (busAddress : UInt32) :
    (init region busAddress config).perform driver =
      (.ok (Device.ofRegisters driver.controller.registers),
        driver.opened region busAddress config) := by
  unfold init
  rw [Attempt.perform_bind, Attempt.perform_get]
  dsimp only
  rw [if_neg (not_not_intro hsupported), if_neg (Nat.not_lt_of_le hregion), hclosed]
  rfl

/-- An initialization fails and changes nothing but the history, or the region is
divided. -/
theorem init_cases (region : Region) (busAddress : UInt32) (config : Config) (driver : Driver) :
    (∃ error logged, (init region busAddress config).perform driver = (.error error, logged) ∧
      Logs driver logged) ∨
    driver.controller.setup = none ∧
      config.SupportedBy (Device.ofRegisters driver.controller.registers) ∧
      Region.slabBytes * usableChannels (Device.ofRegisters driver.controller.registers)
        driver.controller ≤ region.bytes.length ∧
      (init region busAddress config).perform driver =
        (.ok (Device.ofRegisters driver.controller.registers),
          driver.opened region busAddress config) := by
  by_cases hsupported : config.SupportedBy (Device.ofRegisters driver.controller.registers)
  · rcases Nat.lt_or_ge region.bytes.length (Region.slabBytes *
      usableChannels (Device.ofRegisters driver.controller.registers) driver.controller) with
      hsmall | hregion
    · exact .inl ⟨_, _, perform_init_of_small hsupported hsmall busAddress, .inl rfl⟩
    · cases hsetup : driver.controller.setup with
      | none => exact .inr ⟨rfl, hsupported, hregion, perform_init hsupported hregion hsetup _⟩
      | some setup =>
          exact .inl ⟨_, _, perform_init_of_setup hsupported hregion hsetup busAddress, .inl rfl⟩
  · exact .inl ⟨_, _, perform_init_of_unsupported hsupported region busAddress,
      .inr ⟨_, _, rfl⟩⟩

/-- Nothing can be allocated or handed back without a region. -/
theorem perform_allocate_of_none (hsetup : driver.controller.setup = none) (index : Option Nat) :
    (allocate index).perform driver = (.error .notInitialized, driver) := by
  unfold allocate
  rw [Attempt.perform_bind, Attempt.perform_get]
  dsimp only
  rw [hsetup]
  rfl

theorem perform_allocate (hsetup : driver.controller.setup = some setup) (index : Option Nat) :
    (allocate index).perform driver =
      match chooseChannel index setup with
      | .error error => (.error error, driver)
      | .ok channel => (.ok channel, driver.update (·.setRequest channel (some {}))) := by
  unfold allocate
  rw [Attempt.perform_bind, Attempt.perform_get]
  dsimp only
  rw [hsetup]
  dsimp only
  cases chooseChannel index setup with
  | error error => rfl
  | ok channel =>
      simp only [update, Controller.setRequest, hsetup]
      rfl

theorem perform_release (channel : Nat) (driver : Driver) :
    (release channel).perform driver =
      if driver.controller.isRunning channel then (.error .busy, driver)
      else (.ok (), driver.released channel) := by
  unfold release
  rw [Attempt.perform_bind, Attempt.perform_get]
  dsimp only
  split
  · rfl
  · rfl

theorem perform_deinit_of_none (hsetup : driver.controller.setup = none) :
    deinit.perform driver = (.error .notInitialized, driver) := by
  unfold deinit
  rw [Attempt.perform_bind, Attempt.perform_get]
  dsimp only
  rw [hsetup]
  rfl

theorem perform_deinit (hsetup : driver.controller.setup = some setup) :
    deinit.perform driver =
      if setup.requests.any (·.isSome) then (.error .busy, driver)
      else (.ok setup.region, driver.closed setup) := by
  unfold deinit
  rw [Attempt.perform_bind, Attempt.perform_get]
  dsimp only
  rw [hsetup]
  dsimp only
  split
  · rfl
  · rfl

/-! ## Steps -/

/-- Clearing channels does not touch what an initialization looks at. -/
theorem clearChannels_frame (channels : List Nat) (driver : Driver) :
    (channels.foldl clearChannel driver).controller.setup = driver.controller.setup ∧
      (channels.foldl clearChannel driver).controller.registers = driver.controller.registers ∧
      (channels.foldl clearChannel driver).controller.managed = driver.controller.managed := by
  induction channels generalizing driver with
  | nil => exact ⟨rfl, rfl, rfl⟩
  | cons channel channels ih =>
      obtain ⟨hsetup, hregisters, hmanaged⟩ := ih (driver.clearChannel channel)
      exact ⟨hsetup, hregisters,
        hmanaged.trans (Controller.managed_updateNotifications ..)⟩

theorem follows_init (region : Region) (busAddress : UInt32) (config : Config) :
    Follows Steps (init region busAddress config) := by
  intro driver
  change Steps driver ((init region busAddress config).perform driver).2
  rcases init_cases region busAddress config driver with
    ⟨error, logged, hfailed, hlogs⟩ | ⟨hclosed, hsupported, hregion, hopened⟩
  · rw [hfailed]
    exact Controller.Steps.aside hlogs.aside
  · rw [hopened]
    -- clearing channels leaves what the initialization looked at
    obtain ⟨hsetup, hregisters, hmanaged⟩ := clearChannels_frame
      (List.range (usableChannels (Device.ofRegisters driver.controller.registers)
        driver.controller)) driver
    have hcleared := Steps.foldl steps_clearChannel
      (List.range (usableChannels (Device.ofRegisters driver.controller.registers)
        driver.controller)) driver
    have husable := congrArg (min · (min (Device.ofRegisters driver.controller.registers).channels
      (Device.ofRegisters driver.controller.registers).events)) hmanaged
    have hopen := Controller.Step.open busAddress _ (hsetup.trans hclosed)
      (congrArg Device.ofRegisters hregisters.symm) hsupported husable.symm hregion
    exact (Relation.ReflTransGen.tail hcleared hopen).trans (Controller.threadSteps_log _ _).steps

theorem follows_allocate (index : Option Nat) : Follows Steps (allocate index) := by
  intro driver
  change Steps driver ((allocate index).perform driver).2
  cases hsetup : driver.controller.setup with
  | none =>
      rw [perform_allocate_of_none hsetup]
      exact .refl driver
  | some setup =>
      rw [perform_allocate hsetup]
      cases hchosen : chooseChannel index setup with
      | error error => exact .refl driver
      | ok channel =>
          exact Relation.ReflTransGen.single (.allocate hsetup (free_of_chooseChannel hchosen))

theorem steps_released (channel : Nat) (driver : Driver) : Steps driver (driver.released channel) :=
  (steps_clearChannel driver channel).trans
    (Relation.ReflTransGen.single (.release channel (driver.clearChannel channel).controller))

theorem follows_release (channel : Nat) : Follows Steps (release channel) := by
  intro driver
  change Steps driver ((release channel).perform driver).2
  rw [perform_release]
  split
  · exact .refl driver
  · exact steps_released channel driver

theorem steps_closed (setup : Setup) (driver : Driver) : Steps driver (driver.closed setup) := by
  have hmasked : Steps driver (driver.update fun controller =>
      controller.write .interruptEnable
        (controller.read .interruptEnable &&& ~~~channelBits setup.usable)) :=
    Controller.Steps.aside (Controller.aside_write ..)
  exact (hmasked.trans (Steps.foldl steps_clearChannel _ _)).trans
    (Relation.ReflTransGen.single (.close _))

theorem follows_deinit : Follows Steps deinit := by
  intro driver
  change Steps driver (deinit.perform driver).2
  cases hsetup : driver.controller.setup with
  | none =>
      rw [perform_deinit_of_none hsetup]
      exact .refl driver
  | some setup =>
      rw [perform_deinit hsetup]
      split
      · exact .refl driver
      · exact steps_closed setup driver

end CyclicDma.Driver
