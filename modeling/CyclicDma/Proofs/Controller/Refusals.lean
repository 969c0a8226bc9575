import CyclicDma.Proofs.Controller.Relaunching
import CyclicDma.Proofs.Controller.Writes

/-! # Submissions that fail

A submission passes several checks before the program of the order is written, and waits
for the debug interface afterwards. Whoever is refused by a check finds the controller and
the region as they were. If the wait fails, the program is in place and recorded, the
event of the channel is masked, and a later start launches the program.
-/

namespace CyclicDma

namespace Program

variable {transfer : Transfer} {event : UInt8} {size : Nat} {buffer written : List UInt8}

/-- A program that is not written belongs to an empty transfer, or is too large. -/
theorem write_eq_error {error : DmaError} (hwrite : write transfer event buffer = .error error) :
    error = .invalidTransfer ∧ (transfer.periods = 0 ∨ transfer.periodBytes = 0) ∨
      error = .programTooLarge := by
  unfold write at hwrite
  split at hwrite
  next failed hmeasure =>
    cases hwrite
    unfold measure at hmeasure
    split at hmeasure
    next hempty =>
      cases hmeasure
      exact .inl ⟨rfl, hempty⟩
    next =>
      split at hmeasure
      · cases hmeasure
        exact .inr rfl
      · split at hmeasure <;> cases hmeasure
        exact .inr rfl
  next =>
    split at hwrite <;> cases hwrite
    exact .inr rfl

/-- The buffer is left as it is behind the program. -/
theorem getElem?_written (hwrite : write transfer event buffer = .ok (size, written)) {index : Nat}
    (hindex : size ≤ index) : written[index]? = buffer[index]? := by
  obtain ⟨hmeasure, -, rfl⟩ := write_eq_ok hwrite
  have hlength := length_encodeAll_program hmeasure
  rw [List.getElem?_append_right (by omega), List.getElem?_drop, hlength,
    Nat.add_sub_cancel' hindex]

end Program

namespace Order

/-- A ring without a whole period holds less than a period. -/
theorem totalBytes_lt_of_periods_eq_zero {order : Order} {device : Device} {config : Config}
    (hsuited : order.SuitedTo device) (hperiods : (order.transfer config).periods = 0) :
    order.totalBytes < order.periodBytes := by
  have hperiod : order.periodBytes.toNat ≠ 0 := fun hzero =>
    hsuited.2 (UInt32.toNat_inj.mp hzero)
  have hquotient : order.totalBytes.toNat / order.periodBytes.toNat = 0 := by
    rw [← UInt32.toNat_div]
    exact congrArg UInt32.toNat hperiods
  rw [UInt32.lt_iff_toNat_lt]
  exact (Nat.div_eq_zero_iff.mp hquotient).resolve_left hperiod

end Order

namespace Controller

variable {before middle after controller noted : Controller} {channel : Nat} {setup : Setup}
variable {order : Order} {transfer : Transfer} {size : Nat} {slab : List UInt8} {world : World}

/-! ## What is left alone -/

/-- Nothing was written or said, no time passed, the region is as before, and so is
whether the channel runs. -/
structure Untouched (channel : Nat) (before after : Controller) : Prop where
  registers : after.registers = before.registers
  clock : after.clock = before.clock
  history : after.history = before.history
  setting : after.setting = before.setting
  running : after.isRunning channel = before.isRunning channel

theorem Untouched.trans (hfirst : Untouched channel before middle)
    (hsecond : Untouched channel middle after) : Untouched channel before after where
  registers := hsecond.registers.trans hfirst.registers
  clock := hsecond.clock.trans hfirst.clock
  history := hsecond.history.trans hfirst.history
  setting := hsecond.setting.trans hfirst.setting
  running := hsecond.running.trans hfirst.running

theorem untouched_noteAbort (channel : Nat) (controller : Controller) :
    Untouched channel controller (controller.noteAbort channel) where
  registers := by unfold noteAbort; split <;> rfl
  clock := by unfold noteAbort; split <;> rfl
  history := by unfold noteAbort; split <;> rfl
  setting := ((threadSteps_noteAbort channel controller).keepsProgram channel).setting
  running := isRunning_noteAbort channel controller

theorem setting_setTransfer (transfer : Option Transfer) (channel : Nat)
    (controller : Controller) :
    (controller.setTransfer transfer channel).setting = controller.setting := by
  rw [setting, setting, setTransfer, updateRequest, Option.map_map]
  rfl

theorem untouched_setTransfer (transfer : Option Transfer) (channel : Nat)
    (controller : Controller) :
    Untouched channel controller (controller.setTransfer transfer channel) where
  registers := rfl
  clock := rfl
  history := rfl
  setting := setting_setTransfer transfer channel controller
  running := by
    rw [isRunning, wasStarted_setTransfer]
    rfl

/-- The bytes of the region belong to the setting. -/
theorem byte?_eq_of_setting (hsetting : after.setting = before.setting) (place : Nat) :
    after.byte? place = before.byte? place := by
  have hbyte : ∀ controller : Controller, controller.byte? place =
      controller.setting.bind fun setup => setup.region.bytes[place]? := by
    intro controller
    rw [byte?, setting, Option.bind_map]
    rfl
  rw [hbyte, hbyte, hsetting]

/-! ## What becomes of an order -/

/-- The program of a transfer is in the slab of the channel and recorded. -/
def programmed (transfer : Transfer) (size : Nat) (slab : List UInt8) (channel : Nat)
    (controller : Controller) : Controller :=
  controller.setTransfer none channel |>.storeSlab slab channel
    |>.setTransfer (some transfer) channel
    |>.log (.programmed channel size transfer.periods transfer.periodBytes)

/-- What becomes of an order once an abort was taken note of. The first check that fails
decides, and the channel is launched if there is none. -/
inductive Answers (world : World) (channel : Nat) (order : Order) (setup : Setup)
    (noted : Controller) : Except DmaError Unit × Controller → Prop
  | busy (hbusy : ¬ noted.Idle channel) :
      Answers world channel order setup noted (.error .busy, noted)
  | unsuited (hidle : noted.Idle channel) (hunsuited : ¬ order.SuitedTo setup.device) :
      Answers world channel order setup noted (.error .invalidTransfer, noted)
  | unwritten {error} (hidle : noted.Idle channel) (hsuited : order.SuitedTo setup.device)
      (hwrite : Program.write (order.transfer noted.config) (.ofNat channel)
        (setup.region.slab channel) = .error error) :
      Answers world channel order setup noted (.error error, noted.setTransfer none channel)
  | programmed {size slab outcome} (hidle : noted.Idle channel)
      (hsuited : order.SuitedTo setup.device)
      (hwrite : Program.write (order.transfer noted.config) (.ofNat channel)
        (setup.region.slab channel) = .ok (size, slab))
      (htrigger : (trigger world channel).perform
        (noted.programmed (order.transfer noted.config) size slab channel) = outcome) :
      Answers world channel order setup noted outcome

theorem perform_install
    (hwrite : Program.write transfer (.ofNat channel) (setup.region.slab channel) =
      .ok (size, slab)) (controller : Controller) :
    (install transfer channel setup).perform controller =
      (.ok (), controller.programmed transfer size slab channel) := by
  have hinstalls := installs_install transfer channel setup controller
  generalize (install transfer channel setup).perform controller = outcome at hinstalls ⊢
  cases hinstalls with
  | fail hfailed => cases hwrite.symm.trans hfailed
  | write hwritten =>
      cases hwrite.symm.trans hwritten
      rfl

theorem Idle.programmed (hidle : controller.Idle channel)
    (hwrite : Program.write transfer (.ofNat channel) (setup.region.slab channel) =
      .ok (size, slab)) : (controller.programmed transfer size slab channel).Idle channel :=
  (hidle.installed (perform_install hwrite controller)).1

/-- There is no abort to take note of after a program was written. -/
theorem noteAbort_programmed
    (haborted : (controller.notificationsOf channel).aborted = false) (transfer : Transfer)
    (size : Nat) (slab : List UInt8) :
    (controller.programmed transfer size slab channel).noteAbort channel =
      controller.programmed transfer size slab channel := by
  have hsame : (controller.programmed transfer size slab channel).notificationsOf channel =
      controller.notificationsOf channel := (aside_log ..).notificationsOf channel
  rw [noteAbort, hsame, haborted, if_neg Bool.false_ne_true]

theorem answers_submit (world : World) (order : Order)
    (hsetup : (controller.noteAbort channel).setup = some setup) :
    Answers world channel order setup (controller.noteAbort channel)
      ((submit world channel order).perform controller) := by
  have haborted := aborted_noteAbort channel controller
  unfold submit
  rw [Attempt.perform_bind, Attempt.perform_modify]
  dsimp only
  rw [Attempt.perform_bind, Attempt.perform_get]
  dsimp only
  generalize controller.noteAbort channel = noted at hsetup haborted ⊢
  rw [hsetup]
  dsimp only
  split
  next hbusy =>
    refine .busy fun hidle => ?_
    simp [hidle.state, hidle.started] at hbusy
  next hfree =>
    obtain ⟨hstarted, hstopped⟩ : noted.wasStarted channel = false ∧
        noted.channelState channel = .stopped := by simpa using hfree
    have hidle : noted.Idle channel := ⟨hstopped, hstarted⟩
    split
    next hunsuited => exact .unsuited hidle hunsuited
    next hsuited =>
      have hsuited := Decidable.not_not.mp hsuited
      cases hwrite : Program.write (order.transfer noted.config) (.ofNat channel)
          (setup.region.slab channel) with
      | error error =>
          have hinstall : (install (order.transfer noted.config) channel setup).perform noted =
              (.error error, noted.setTransfer none channel) := by
            rw [install, hwrite]
            rfl
          rw [Attempt.perform_bind_of_error hinstall]
          exact .unwritten hidle hsuited hwrite
      | ok program =>
          rw [Attempt.perform_bind_of_ok (perform_install hwrite noted), perform_start,
            noteAbort_programmed haborted, (hidle.programmed hwrite).perform_startThread]
          exact .programmed hidle hsuited hwrite rfl

/-! ## Programs in place -/

theorem transfer?_programmed (hheld : (controller.request? channel).isSome = true)
    (transfer : Transfer) (size : Nat) (slab : List UInt8) :
    (controller.programmed transfer size slab channel).transfer? channel = some transfer := by
  obtain ⟨request, hrequest⟩ := Option.isSome_iff_exists.mp hheld
  rw [programmed, transfer?_eq_of_setup (aside_log ..).setup, transfer?_setTransfer,
    request?_storeSlab, setTransfer, request?_updateRequest, hrequest]
  rfl

theorem exists_setup_programmed (hsetup : controller.setup = some setup) (transfer : Transfer)
    (size : Nat) (slab : List UInt8) (channel : Nat) :
    ∃ requests, (controller.programmed transfer size slab channel).setup =
      some { setup with region := setup.region.storeSlab channel slab, requests } := by
  rw [programmed, (aside_log ..).setup, setTransfer, updateRequest, storeSlab, setTransfer,
    updateRequest, hsetup]
  exact ⟨_, rfl⟩

/-- The place belongs to the program of a transfer, which starts at the slab of the channel
and does not leave it. -/
structure InProgram (channel : Nat) (transfer : Transfer) (place : Nat) : Prop where
  slab : InSlab channel place
  program : ∃ size, Program.measure transfer (.ofNat channel) = .ok size ∧
    place < Region.slabBytes * channel + size

theorem inProgram_of_changed (hsetup : controller.setup = some setup)
    (hwrite : Program.write transfer (.ofNat channel) (setup.region.slab channel) =
      .ok (size, slab)) {place : Nat}
    (hchanged : (controller.programmed transfer size slab channel).byte? place ≠
      controller.byte? place) : InProgram channel transfer place := by
  have hlength := Program.length_written hwrite
  have hbound := hlength.trans_le ((Region.length_slab ..).trans_le (Nat.min_le_left ..))
  obtain ⟨requests, hstored⟩ := exists_setup_programmed hsetup transfer size slab channel
  rw [byte?, byte?, hstored, hsetup, Option.bind_some, Option.bind_some,
    Region.getElem?_storeSlab hlength] at hchanged
  split at hchanged
  next hin =>
    obtain ⟨hlow, hhigh⟩ := hin
    have hslab : place - Region.slabBytes * channel < Region.slabBytes := by omega
    refine ⟨⟨hlow, by rw [Nat.mul_succ]; omega⟩, size, (Program.write_eq_ok hwrite).1, ?_⟩
    by_contra hbehind
    refine hchanged ?_
    rw [Program.getElem?_written hwrite (by omega), Region.getElem?_slab, if_pos hslab,
      Nat.add_sub_cancel' hlow]
  next => exact absurd rfl hchanged

/-! ## Submissions that time out -/

/-- Launching a channel that has a transfer succeeds, or its event is masked after a
wait. -/
theorem trigger_of_transfer (world : World)
    (hsome : (controller.transfer? channel).isSome = true) :
    (∃ launched, (trigger world channel).perform controller = (.ok (), launched)) ∨
      ∃ waited : Controller, waited.setup = controller.setup ∧
        (trigger world channel).perform controller =
          (.error .timeout, waited.maskEvent channel) := by
  have hkept := (waits_waitFor world (!·.isDebugBusy) waitBound
    (controller.unmaskEvent channel)).setup
  have htriggers := triggers_trigger world channel controller
  generalize (trigger world channel).perform controller = outcome at htriggers ⊢
  cases htriggers with
  | leave => exact .inl ⟨_, rfl⟩
  | refuse hnone => rw [hnone] at hsome; cases hsome
  | launch => exact .inl ⟨_, rfl⟩
  | drop _ _ _ hwaited =>
      rw [hwaited] at hkept
      exact .inr ⟨_, (aside_log ..).setup.trans hkept, rfl⟩

/-- The program of a transfer took the place of what was in the slab, and is recorded. The
channel does not run and its event is masked. As long as the program is kept, a start
launches it. -/
structure Prepared (channel : Nat) (transfer : Transfer) (slab : List UInt8) (launch : Command)
    (after : Controller) : Prop where
  slab : ∃ size written, Program.write transfer (.ofNat channel) slab = .ok (size, written) ∧
    after.setup.map (·.region.slab channel) = some written
  transfer : after.transfer? channel = some transfer
  started : after.wasStarted channel = false
  masked : hasChannel (after.read .interruptEnable) channel = false
  later (later : Controller) (hkeeps : KeepsProgram channel after later) (world : World) :
    StartsWith launch channel later ((start world channel).perform later)

theorem prepared_masked {waited : Controller} (hchannel : channel < Register.maxChannels)
    (hidle : controller.Idle channel) (hsetup : controller.setup = some setup)
    (hheld : (controller.request? channel).isSome = true)
    (hwrite : Program.write transfer (.ofNat channel) (setup.region.slab channel) =
      .ok (size, slab))
    (hwaited : waited.setup = (controller.programmed transfer size slab channel).setup) :
    Prepared channel transfer (setup.region.slab channel) (setup.launch channel)
      (waited.maskEvent channel) := by
  obtain ⟨requests, hstored⟩ := exists_setup_programmed hsetup transfer size slab channel
  have hafter : (waited.maskEvent channel).setup =
      (controller.programmed transfer size slab channel).setup :=
    (aside_maskEvent ..).setup.trans hwaited
  refine ⟨⟨size, slab, hwrite, ?_⟩, ?_, ?_, ?_, fun later hkeeps world => ?_⟩
  · rw [hafter, hstored]
    exact congrArg some (Region.slab_storeSlab_self (Program.length_written hwrite))
  · rw [transfer?_eq_of_setup hafter, transfer?_programmed hheld]
  · rw [wasStarted_of_setup hafter]
    exact (hidle.programmed hwrite).started
  · have hread : (waited.maskEvent channel).read .interruptEnable =
        waited.read .interruptEnable &&& ~~~channelBit channel := Registers.read_write_self ..
    rw [hread]
    exact hasChannel_and_not (Nat.lt_of_lt_of_le hchannel (by decide)) _
  · -- neither the region nor the requests matter for where the slab is
    obtain ⟨others, hlater⟩ := hkeeps.exists_requests (hafter.trans hstored)
    have hstarts := startsWith_start world channel hlater
    exact hstarts

/-! ## Submissions -/

/-- What a submission does, and what it leaves alone if it fails. -/
structure FailsCleanly (channel : Nat) (order : Order) (setup : Setup) (before : Controller)
    (outcome : Except DmaError Unit × Controller) : Prop where
  /-- Nothing is written unless the channel is found idle. -/
  guarded (hbusy : ¬ (before.noteAbort channel).Idle channel) :
    outcome = (.error .busy, before.noteAbort channel)
  errors {error : DmaError} (hfailed : outcome.1 = .error error) :
    error ∈ [.busy, .invalidTransfer, .programTooLarge, .timeout]
  busy (hfailed : outcome.1 = .error .busy) :
    Untouched channel before outcome.2 ∧
      outcome.2.transfer? channel = before.transfer? channel
  /-- An order that suits the device is invalid if it has no whole period. -/
  invalid (hfailed : outcome.1 = .error .invalidTransfer) :
    Untouched channel before outcome.2 ∧
      if order.SuitedTo setup.device then
        order.totalBytes < order.periodBytes ∧ outcome.2.transfer? channel = none
      else outcome.2.transfer? channel = before.transfer? channel
  tooLarge (hfailed : outcome.1 = .error .programTooLarge) :
    Untouched channel before outcome.2 ∧ outcome.2.transfer? channel = none
  timeout (hfailed : outcome.1 = .error .timeout) :
    Prepared channel (order.transfer before.config) (setup.region.slab channel)
      (setup.launch channel) outcome.2
  bytes {place : Nat} (hchanged : outcome.2.byte? place ≠ before.byte? place) :
    InProgram channel (order.transfer before.config) place

/-- What is refused before the program is written leaves all bytes alone. -/
theorem Untouched.bytes (huntouched : Untouched channel before after) {place : Nat}
    (hchanged : after.byte? place ≠ before.byte? place) (transfer : Transfer) :
    InProgram channel transfer place :=
  absurd (byte?_eq_of_setting huntouched.setting place) hchanged

/-- Whoever is refused before the program is written finds everything untouched. What is
recorded then depends on the reason. -/
theorem FailsCleanly.of_untouched {error : DmaError} (huntouched : Untouched channel before after)
    (hrefused : error ∈ [.busy, .invalidTransfer, .programTooLarge])
    (hguarded : ¬ (before.noteAbort channel).Idle channel →
      ((.error error, after) : Except DmaError Unit × Controller) =
        (.error .busy, before.noteAbort channel))
    (hbusy : error = .busy → after.transfer? channel = before.transfer? channel)
    (hinvalid : error = .invalidTransfer →
      if order.SuitedTo setup.device then
        order.totalBytes < order.periodBytes ∧ after.transfer? channel = none
      else after.transfer? channel = before.transfer? channel)
    (htooLarge : error = .programTooLarge → after.transfer? channel = none) :
    FailsCleanly channel order setup before (.error error, after) where
  guarded := hguarded
  errors hfailed := by
    cases hfailed
    exact List.mem_append_left [.timeout] hrefused
  busy hfailed := by
    cases hfailed
    exact ⟨huntouched, hbusy rfl⟩
  invalid hfailed := by
    cases hfailed
    exact ⟨huntouched, hinvalid rfl⟩
  tooLarge hfailed := by
    cases hfailed
    exact ⟨huntouched, htooLarge rfl⟩
  timeout hfailed := by
    cases hfailed
    exact absurd hrefused (by decide)
  bytes hchanged := huntouched.bytes hchanged _

theorem failsCleanly_unwritten {error : DmaError}
    (hidle : (before.noteAbort channel).Idle channel) (hsuited : order.SuitedTo setup.device)
    (hwrite : Program.write (order.transfer before.config) (.ofNat channel)
      (setup.region.slab channel) = .error error) :
    FailsCleanly channel order setup before
      (.error error, (before.noteAbort channel).setTransfer none channel) := by
  have huntouched := (untouched_noteAbort channel before).trans
    (untouched_setTransfer none channel _)
  have hforgotten : ((before.noteAbort channel).setTransfer none channel).transfer? channel =
      none := by
    rw [transfer?_setTransfer]
    cases (before.noteAbort channel).request? channel <;> rfl
  rcases Program.write_eq_error hwrite with ⟨rfl, hempty⟩ | rfl
  · have hperiods := hempty.resolve_right hsuited.2
    have hless := Order.totalBytes_lt_of_periods_eq_zero hsuited hperiods
    refine .of_untouched huntouched (by decide) (absurd hidle) nofun (fun _ => ?_) nofun
    rw [if_pos hsuited]
    exact ⟨hless, hforgotten⟩
  · exact .of_untouched huntouched (by decide) (absurd hidle) nofun nofun fun _ => hforgotten

theorem isSome_request?_noteAbort (hheld : (before.request? channel).isSome = true) :
    ((before.noteAbort channel).request? channel).isSome = true := by
  unfold noteAbort
  split
  · rw [setRunning, request?_updateRequest, Option.isSome_map]
    exact hheld
  · exact hheld

/-- Launching a channel leaves the region alone, so only the program changes bytes. -/
theorem inProgram_of_submitted (world : World) (place : Nat)
    (hsetup : (before.noteAbort channel).setup = some setup)
    (hwrite : Program.write transfer (.ofNat channel) (setup.region.slab channel) =
      .ok (size, slab))
    (hchanged : byte? place ((trigger world channel).perform
      ((before.noteAbort channel).programmed transfer size slab channel)).2 ≠
        before.byte? place) : InProgram channel transfer place := by
  have hsteps : Follows ThreadSteps (trigger world channel) :=
    ((starting_threadSteps channel).inWorld world).trigger
  have hkept := (hsteps ((before.noteAbort channel).programmed transfer size slab
    channel)).keepsProgram channel
  refine inProgram_of_changed hsetup hwrite fun hsame => hchanged ?_
  rw [byte?_eq_of_setting (untouched_noteAbort channel before).setting] at hsame
  exact (byte?_eq_of_setting hkept.setting place).trans hsame

theorem failsCleanly_programmed (world : World) (hchannel : channel < Register.maxChannels)
    (hsetup : before.setup = some setup)
    (hheld : (before.request? channel).isSome = true)
    (hidle : (before.noteAbort channel).Idle channel)
    (hwrite : Program.write (order.transfer before.config) (.ofNat channel)
      (setup.region.slab channel) = .ok (size, slab)) :
    FailsCleanly channel order setup before
      ((trigger world channel).perform
        ((before.noteAbort channel).programmed (order.transfer before.config) size slab
          channel)) := by
  have hkept := (threadSteps_noteAbort channel before).keepsProgram channel
  obtain ⟨requests, hstored⟩ := hkept.exists_requests hsetup
  have hnoted := isSome_request?_noteAbort hheld
  have hsome : (((before.noteAbort channel).programmed (order.transfer before.config) size slab
      channel).transfer? channel).isSome = true := by
    rw [transfer?_programmed hnoted]
    rfl
  have hbytes (place : Nat) := inProgram_of_submitted world place hstored hwrite
  rcases trigger_of_transfer world hsome with
    ⟨launched, htrigger⟩ | ⟨waited, hwaited, htrigger⟩
  · rw [htrigger] at hbytes ⊢
    exact
      { guarded := absurd hidle
        errors := nofun
        busy := nofun
        invalid := nofun
        tooLarge := nofun
        timeout := nofun
        bytes := hbytes _ }
  · have hprepared := prepared_masked hchannel hidle hstored hnoted hwrite hwaited
    rw [htrigger] at hbytes ⊢
    exact
      { guarded := absurd hidle
        errors := fun hfailed => by cases hfailed; decide
        busy := nofun
        invalid := nofun
        tooLarge := nofun
        timeout := fun _ => hprepared
        bytes := hbytes _ }

/-- A submission that fails leaves the hardware and the region alone. Only a channel that
is found idle gets another program, only the bytes of the program change, and a submission
that is refused before changes none. One that times out leaves the program in place, to be
launched by a later start. -/
theorem submit_fails_cleanly (world : World) (order : Order)
    (hchannel : channel < Register.maxChannels) (hsetup : before.setup = some setup)
    (hheld : (before.request? channel).isSome = true) :
    FailsCleanly channel order setup before ((submit world channel order).perform before) := by
  have hsteps := threadSteps_noteAbort channel before
  have huntouched := untouched_noteAbort channel before
  have hconfig := hsteps.submitted.1
  have hsame := (hsteps.submitted.2) channel
  obtain ⟨requests, hnoted⟩ := (hsteps.keepsProgram channel).exists_requests hsetup
  have hanswers := answers_submit world order hnoted
  generalize (submit world channel order).perform before = outcome at hanswers ⊢
  cases hanswers with
  | busy hbusy =>
      exact .of_untouched huntouched (by decide) (fun _ => rfl) (fun _ => hsame) nofun nofun
  | unsuited hidle hunsuited =>
      refine .of_untouched huntouched (by decide) (absurd hidle) nofun (fun _ => ?_) nofun
      rw [if_neg hunsuited]
      exact hsame
  | unwritten hidle hsuited hwrite =>
      rw [hconfig] at hwrite
      exact failsCleanly_unwritten hidle hsuited hwrite
  | programmed hidle hsuited hwrite htrigger =>
      rw [hconfig] at hwrite htrigger
      rw [← htrigger]
      exact failsCleanly_programmed world hchannel hsetup hheld hidle hwrite

/-! ## A debug interface that stays busy -/

/-- The registers stay as they are while nothing happens. -/
theorem registers_waitFor_still (condition : Controller → Bool) (microseconds : Nat)
    (controller : Controller) :
    (waitFor (fun _ => []) condition microseconds controller).2.registers =
      controller.registers := by
  induction microseconds generalizing controller with
  | zero => rfl
  | succ microseconds ih =>
      unfold waitFor
      split
      · rfl
      · exact ih _

/-- So the debug interface stays busy, and the launch times out. -/
theorem timeout_of_busy (hidle : controller.Idle channel)
    (hsome : (controller.transfer? channel).isSome = true)
    (hbusy : controller.isDebugBusy = true) :
    ((trigger (fun _ => []) channel).perform controller).1 = .error .timeout := by
  have hregisters := registers_waitFor_still (!·.isDebugBusy) waitBound
    (controller.unmaskEvent channel)
  have hread : (controller.unmaskEvent channel).read .debugStatus =
      controller.read .debugStatus := Registers.read_write_of_ne _ _ (by decide)
  have htriggers := triggers_trigger (fun _ => []) channel controller
  generalize (trigger (fun _ => []) channel).perform controller = outcome at htriggers ⊢
  cases htriggers with
  | leave hstarted => simp [hidle.state, hidle.started] at hstarted
  | refuse hnone => rw [hnone] at hsome; cases hsome
  | @launch setup waited _ _ _ hwaited =>
      have hfree := condition_of_waitFor hwaited
      rw [hwaited] at hregisters
      rw [isDebugBusy, read, hregisters, ← read, hread, ← isDebugBusy, hbusy] at hfree
      cases hfree
  | drop => rfl

/-- A channel that is held and stands still, while the debug interface is busy. -/
def occupiedController : Controller :=
  { registers := Registers.zero.write .debugStatus 1
    config := {}
    setup := some
      { device := Device.ofRegisters .zero
        region := ⟨0, List.replicate 256 0xFF⟩
        busAddress := 0x1000
        requests := [some {}] }
    notifications := [{}]
    clock := 0
    history := [] }

/-- A ring of two periods is prepared, since the debug interface stays busy. It is launched
when the stopped channel is started after the debug interface got idle. -/
theorem submit_fails_cleanly_occupied :
    ∃ after, (submit (fun _ => []) 0 ⟨.memoryToMemory, 0x2000, 0x3000, 64, 32⟩).perform
        occupiedController = (.error .timeout, after) ∧
      hasChannel (after.read .interruptEnable) 0 = false ∧
      LaunchesWith (.go 0 0x1000 false) 0 (after.changeAll [(.debugStatus, 0), (.status 0, 0)])
        ((start (fun _ => []) 0).perform
          (after.changeAll [(.debugStatus, 0), (.status 0, 0)])).2 := by
  have hchannel : 0 < Register.maxChannels := by decide
  have hsetup : occupiedController.setup = some _ := rfl
  have hclean := submit_fails_cleanly (fun _ => [])
    ⟨.memoryToMemory, 0x2000, 0x3000, 64, 32⟩ hchannel hsetup rfl
  have hanswers := answers_submit (fun _ => []) ⟨.memoryToMemory, 0x2000, 0x3000, 64, 32⟩
    (show (occupiedController.noteAbort 0).setup = some _ from rfl)
  generalize (submit (fun _ => []) 0 ⟨.memoryToMemory, 0x2000, 0x3000, 64, 32⟩).perform
    occupiedController = outcome at hclean hanswers ⊢
  have hresult : outcome.1 = .error .timeout := by
    cases hanswers with
    | busy hbusy => exact absurd ⟨by decide, by decide⟩ hbusy
    | unsuited _ hunsuited => exact absurd ⟨nofun, by decide⟩ hunsuited
    | unwritten _ _ hwrite =>
        have hfailed : Except.isOk _ = false := congrArg Except.isOk hwrite
        exact absurd (hfailed.symm.trans (by decide +kernel)) Bool.false_ne_true
    | programmed hidle _ hwrite htrigger =>
        rw [← htrigger]
        refine timeout_of_busy (hidle.programmed hwrite) ?_ ?_
        · rw [transfer?_programmed rfl, Option.isSome_some]
        · rw [isDebugBusy, read, programmed, registers_log]
          exact (by decide : occupiedController.isDebugBusy = true)
  obtain ⟨result, after⟩ := outcome
  obtain rfl : result = .error .timeout := hresult
  have hprepared := hclean.timeout rfl
  generalize hlater : after.changeAll [(.debugStatus, 0), (.status 0, 0)] = later
  have hkept : KeepsProgram 0 after later := .of_setup (hlater ▸ rfl)
  have hstate : later.read (.status 0) = 0 := hlater ▸ Registers.read_write_self ..
  have hdebug : later.read .debugStatus = 0 := by
    rw [← hlater]
    exact (Registers.read_write_of_ne _ _ (by decide)).trans (Registers.read_write_self ..)
  have hready : later.Ready 0 :=
    { state := by rw [channelState, hstate]; decide
      running := by
        rw [← hlater]
        exact (congrArg (· && _) hprepared.started).trans (Bool.false_and _)
      transfer := by rw [hkept.transfer, hprepared.transfer, Option.isSome_some]
      idle := by rw [isDebugBusy, hdebug]; decide }
  have hstarts := hprepared.later later hkept (fun _ => [])
  exact ⟨after, rfl, hprepared.masked, hlater ▸ (hstarts.ready hready).2⟩

end Controller

end CyclicDma
