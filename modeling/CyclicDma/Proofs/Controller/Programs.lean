import CyclicDma.Proofs.Controller.Setup
import CyclicDma.Proofs.Controller.Step
import CyclicDma.Proofs.ControlWord
import CyclicDma.Proofs.Program.Meaning

/-! # Programs in place

While a transfer is recorded for a channel, the channel's slab holds its program.
Every step of a controller keeps it that way: a transfer is forgotten before its
slab is touched, and recorded when the program was written.
-/

namespace CyclicDma

/-- The configuration and the device allow the transfer. -/
structure Transfer.Allowed (transfer : Transfer) (config : Config) (device : Device) : Prop where
  control : transfer.control = transfer.direction.control config.control
  peripheral : ∀ peripheral ∈ transfer.direction.peripheral?,
    peripheral.toNat < device.peripherals
  periods : transfer.periods ≠ 0
  periodBytes : transfer.periodBytes ≠ 0

namespace Setup

/-- The slab of a channel starts with the bytes that are written for the transfer,
with the channel's own event, wherever they are written to. -/
def HoldsProgram (setup : Setup) (channel : Nat) (transfer : Transfer) : Prop :=
  ∃ size, ∀ buffer : List UInt8, buffer.length = Region.slabBytes →
    ∃ written, Program.write transfer (.ofNat channel) buffer = .ok (size, written) ∧
      (setup.region.slab channel).take size = written.take size

/-- What holds of the setup of a controller at all times. -/
structure Sound (setup : Setup) (config : Config) : Prop where
  supported : config.SupportedBy setup.device
  peripherals : setup.device.peripherals ≤ 32
  usable : setup.usable ≤ Register.maxChannels
  region : Region.slabBytes * setup.usable ≤ setup.region.bytes.length
  programs : ∀ channel transfer, setup.transfer? channel = some transfer →
    setup.HoldsProgram channel transfer ∧ transfer.Allowed config setup.device

/-- What a recorded transfer is known to be: one that the configuration and the
device allow, with its program in the slab of its channel. -/
structure InPlace (setup : Setup) (config : Config) (channel : Nat) (transfer : Transfer) :
    Prop where
  usable : channel < setup.usable ∧ setup.usable ≤ Register.maxChannels
  slab : (setup.region.slab channel).length = Region.slabBytes
  program : setup.HoldsProgram channel transfer
  supported : config.SupportedBy setup.device
  allowed : transfer.Allowed config setup.device
  shape : transfer.control.SameShape
  beatSize : transfer.control.burstSize.toNat ∈ [1, 2, 4, 8, 16]
  bus : transfer.control.burstSize.toNat ≤ setup.device.busBytes
  beats : 1 ≤ transfer.control.burstLength.toNat ∧ transfer.control.burstLength.toNat ≤ 16

variable {setup later : Setup} {config : Config} {channel : Nat} {transfer : Transfer}

theorem Sound.inPlace (hsound : setup.Sound config)
    (htransfer : setup.transfer? channel = some transfer) :
    setup.InPlace config channel transfer := by
  obtain ⟨hprogram, hallowed⟩ := hsound.programs channel transfer htransfer
  have husable := lt_usable_of_transfer? htransfer
  have hsize := hsound.supported.burstSize_eq transfer.direction
  have hlength := hsound.supported.burstLength_eq transfer.direction
  have hregion : Region.slabBytes * (channel + 1) ≤ setup.region.bytes.length :=
    Nat.le_trans (Nat.mul_le_mul_left _ husable) hsound.region
  refine ⟨⟨husable, hsound.usable⟩, Region.length_slab_of_le hregion, hprogram, hsound.supported,
    hallowed, ?_, ?_, ?_, ?_⟩
  · exact hallowed.control ▸ hsound.supported.sameShape transfer.direction
  · rw [hallowed.control, hsize]
    exact hsound.supported.1
  · rw [hallowed.control, hsize]
    exact hsound.supported.2.1
  · rw [hallowed.control, hlength]
    exact hsound.supported.2.2

/-- A program that was written somewhere is written anywhere else in the same
way. -/
theorem holdsProgram_of_write {size : Nat} {slab written : List UInt8}
    (hwrite : Program.write transfer (.ofNat channel) slab = .ok (size, written))
    (hslab : slab.length ≤ Region.slabBytes) (hheld : setup.region.slab channel = written) :
    setup.HoldsProgram channel transfer := by
  obtain ⟨hmeasure, hfits, -⟩ := Program.write_eq_ok hwrite
  refine ⟨size, fun buffer hbuffer => ?_⟩
  have hother := Program.write_of_measure hmeasure (show size ≤ buffer.length by omega)
  exact ⟨_, hother, by rw [hheld, Program.take_written hwrite, Program.take_written hother]⟩

/-- Fewer transfers are recorded than before, and no slab was touched. -/
theorem Sound.of_fewer (hsound : setup.Sound config) (hdevice : later.device = setup.device)
    (hregion : later.region = setup.region) (husable : later.usable = setup.usable)
    (hfewer : ∀ channel transfer, later.transfer? channel = some transfer →
      setup.transfer? channel = some transfer) : later.Sound config where
  supported := hdevice ▸ hsound.supported
  peripherals := hdevice ▸ hsound.peripherals
  usable := husable ▸ hsound.usable
  region := by
    rw [husable, hregion]
    exact hsound.region
  programs channel transfer htransfer := by
    rw [HoldsProgram, hregion, hdevice]
    exact hsound.programs channel transfer (hfewer channel transfer htransfer)

theorem usable_updateRequest (setup : Setup) (channel : Nat) (update : Request → Request) :
    (setup.updateRequest channel update).usable = setup.usable :=
  List.length_modify ..

theorem Sound.setRunning (hsound : setup.Sound config) (running : Bool) (channel : Nat) :
    (setup.updateRequest channel ({ · with running })).Sound config := by
  refine hsound.of_fewer rfl rfl (usable_updateRequest ..) fun other transfer htransfer => ?_
  rw [← htransfer, transfer?_setRunning]

theorem Sound.forget (hsound : setup.Sound config) (channel : Nat) :
    (setup.updateRequest channel ({ · with transfer := none })).Sound config := by
  refine hsound.of_fewer rfl rfl (usable_updateRequest ..) fun other transfer htransfer => ?_
  rw [transfer?_updateRequest] at htransfer
  split at htransfer
  · cases hrequest : setup.requests[channel]?.join <;> rw [hrequest] at htransfer <;> cases htransfer
  · exact htransfer

/-- A request without a transfer may take the place of any other. -/
theorem Sound.setRequest (hsound : setup.Sound config) (channel : Nat) {request : Option Request}
    (hrequest : request.bind (·.transfer) = none) :
    Sound { setup with requests := setup.requests.set channel request } config := by
  refine hsound.of_fewer rfl rfl (List.length_set ..) fun other transfer htransfer => ?_
  rw [transfer?, List.getElem?_set] at htransfer
  split at htransfer
  · split at htransfer
    · rw [Option.join_some, hrequest] at htransfer
      cases htransfer
    · cases htransfer
  · exact htransfer

/-- Writing the program of an order and recording its transfer keeps all
programs in place. -/
theorem Sound.install {order : Order} {size : Nat} {slab : List UInt8}
    (hsound : setup.Sound config) (hsuited : order.SuitedTo setup.device)
    (hwrite : Program.write (order.transfer config) (.ofNat channel)
      (setup.region.slab channel) = .ok (size, slab)) :
    ({ setup with region := setup.region.storeSlab channel slab }.updateRequest channel
      ({ · with transfer := some (order.transfer config) })).Sound config := by
  have hlength := Program.length_written hwrite
  have hshort : (setup.region.slab channel).length ≤ Region.slabBytes := by
    rw [Region.length_slab]
    exact Nat.min_le_left ..
  refine ⟨hsound.supported, hsound.peripherals, ?_, ?_, fun other transfer htransfer => ?_⟩
  · rw [usable_updateRequest]
    exact hsound.usable
  · rw [usable_updateRequest]
    exact (Region.length_storeSlab hlength).symm ▸ hsound.region
  · rw [transfer?_updateRequest] at htransfer
    split at htransfer
    next hsame =>
      subst hsame
      obtain ⟨request, -, hrecorded⟩ := Option.bind_eq_some_iff.mp htransfer
      cases hrecorded
      obtain ⟨hmeasure, -, -⟩ := Program.write_eq_ok hwrite
      obtain ⟨hperiods, hbytes, -⟩ := Program.measure_eq_ok hmeasure
      refine ⟨holdsProgram_of_write hwrite hshort (Region.slab_storeSlab_self hlength), ?_⟩
      exact ⟨rfl, hsuited.1, hperiods, hbytes⟩
    next hne =>
      have hbefore := hsound.programs other transfer htransfer
      rw [HoldsProgram] at hbefore ⊢
      have hslab := Region.slab_storeSlab_of_ne hlength hne
      exact hslab.symm ▸ hbefore

end Setup

namespace Controller

/-- The driver manages no more channels than a controller can have, and the setup
is sound while there is one. -/
structure Sound (controller : Controller) : Prop where
  managed : controller.managed ≤ Register.maxChannels
  setup : ∀ setup, controller.setup = some setup → setup.Sound controller.config

variable {before after controller : Controller}

theorem Sound.of_setup_eq (hsound : before.Sound) (hmanaged : after.managed = before.managed)
    (hsetup : after.setup = before.setup) (hconfig : after.config = before.config) : after.Sound where
  managed := hmanaged ▸ hsound.managed
  setup setup hafter := hconfig ▸ hsound.setup setup (hsetup ▸ hafter)

theorem Sound.updateNotifications (hsound : controller.Sound) (channel : Nat)
    (update : Notifications → Notifications) :
    (controller.updateNotifications channel update).Sound :=
  hsound.of_setup_eq (managed_updateNotifications ..) rfl rfl

theorem Sound.map_setup (hsound : controller.Sound) (change : Setup → Setup)
    (hchange : ∀ setup, setup.Sound controller.config → (change setup).Sound controller.config) :
    Sound { controller with setup := controller.setup.map change } where
  managed := hsound.managed
  setup setup hafter := by
    obtain ⟨earlier, hearlier, rfl⟩ := Option.map_eq_some_iff.mp hafter
    exact hchange earlier (hsound.setup earlier hearlier)

theorem peripherals_ofRegisters_le (registers : Registers) :
    (Device.ofRegisters registers).peripherals ≤ 32 := by
  have hlt : (Device.peripheralsField.get (registers.read (.configuration 0))).toNat < 2 ^ 5 :=
    BitField.get_lt (show Device.peripheralsField.Fits by decide) _
  simp only [Device.ofRegisters]
  split
  · exact Nat.zero_le _
  · omega

/-- Nothing is recorded for the channels of a new setup. -/
theorem sound_open {config : Config} {region : Region} (hsound : controller.Sound)
    (busAddress : UInt32)
    (hsupported : config.SupportedBy (Device.ofRegisters controller.registers))
    (hregion : Region.slabBytes *
      Driver.usableChannels (Device.ofRegisters controller.registers) controller ≤
        region.bytes.length) :
    Setup.Sound
      { device := Device.ofRegisters controller.registers
        region
        busAddress
        requests := List.replicate
          (Driver.usableChannels (Device.ofRegisters controller.registers) controller) none }
      config where
  supported := hsupported
  peripherals := peripherals_ofRegisters_le controller.registers
  usable := by
    rw [Setup.usable, List.length_replicate]
    exact Nat.le_trans (Nat.min_le_left ..) hsound.managed
  region := by
    rw [Setup.usable, List.length_replicate]
    exact hregion
  programs channel transfer htransfer := by
    rw [Setup.transfer?, List.getElem?_replicate] at htransfer
    split at htransfer <;> cases htransfer

/-- Driving threads keeps programs in place. -/
theorem Sound.threadStep (hsound : before.Sound) (hstep : ThreadStep before after) :
    after.Sound := by
  cases hstep with
  | aside haside => exact hsound.of_setup_eq haside.managed haside.setup haside.config
  | interrupt =>
      obtain ⟨hsetup, hconfig, hmanaged, -⟩ := onInterrupt_frame before
      exact hsound.of_setup_eq hmanaged hsetup hconfig
  | setAborted channel aborted => exact hsound.updateNotifications ..
  | setRunning running channel => exact hsound.map_setup _ fun _ hsetup => hsetup.setRunning ..
  | launch hsetup htransfer =>
      obtain ⟨hkept, hconfig, hnotifications, -⟩ := issue_frame _ _ before
      exact hsound.of_setup_eq (congrArg List.length hnotifications) hkept hconfig

/-- Every step keeps programs in place. -/
theorem Sound.step (hsound : before.Sound) (hstep : Step before after) : after.Sound := by
  cases hstep with
  | thread hthread => exact hsound.threadStep hthread
  | await channel waker => exact hsound.updateNotifications ..
  | register hregister => exact hsound.updateNotifications ..
  | unregister hunregister => exact hsound.updateNotifications ..
  | removeOwner owner => exact hsound.of_setup_eq (List.length_map ..) rfl rfl
  | takePending channel => exact hsound.of_setup_eq (List.length_modify ..) rfl rfl
  | discardPending channel => exact hsound.of_setup_eq (List.length_modify ..) rfl rfl
  | forget channel => exact hsound.map_setup _ fun _ hsetup => hsetup.forget channel
  | @install channel _ setup size slab order hsetup hsuited hwrite =>
      refine ⟨hsound.managed, fun later hlater => ?_⟩
      rw [setTransfer, Controller.updateRequest, storeSlab, hsetup] at hlater
      cases hlater
      exact (hsound.setup setup hsetup).install hsuited hwrite
  | allocate hsetup hfree => exact hsound.map_setup _ fun _ hsetup => hsetup.setRequest _ rfl
  | release channel => exact hsound.map_setup _ fun _ hsetup => hsetup.setRequest _ rfl
  | «open» busAddress usable hclosed hdevice hsupported husable hregion =>
      subst hdevice husable
      refine ⟨hsound.managed, fun later hlater => ?_⟩
      cases hlater
      exact sound_open hsound busAddress hsupported hregion
  | close => exact ⟨hsound.managed, fun _ hsetup => nomatch hsetup⟩

theorem Sound.steps (hsound : before.Sound) (hsteps : Steps before after) : after.Sound := by
  induction hsteps with
  | refl => exact hsound
  | tail _ hstep ih => exact ih.step hstep

theorem sound_new {channels : Nat} (hnew : new? channels = some controller) : controller.Sound := by
  unfold new? at hnew
  split at hnew
  next hfew =>
    cases hnew
    refine ⟨?_, fun _ hsetup => nomatch hsetup⟩
    rw [managed, List.length_replicate]
    exact hfew
  next => cases hnew

theorem Reachable.sound (hreachable : controller.Reachable) : controller.Sound := by
  obtain ⟨channels, start, hnew, hsteps⟩ := hreachable
  exact (sound_new hnew).steps hsteps

/-- A recorded transfer has its program in place. -/
theorem Reachable.inPlace (hreachable : controller.Reachable) {setup : Setup} {channel : Nat}
    {transfer : Transfer} (hsetup : controller.setup = some setup)
    (htransfer : controller.transfer? channel = some transfer) :
    setup.InPlace controller.config channel transfer := by
  rw [transfer?_eq hsetup] at htransfer
  exact (hreachable.sound.setup setup hsetup).inPlace htransfer

end Controller

end CyclicDma
