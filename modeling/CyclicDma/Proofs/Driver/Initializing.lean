import CyclicDma.Proofs.BitField
import CyclicDma.Proofs.Driver.Allocation

/-! # Refused initializations and masked events

An initialization is refused for the first reason that applies, before anything but a
message was recorded. Handing the region back masks the events of the channels that could
be used, and writes no other register.
-/

namespace CyclicDma.Driver

variable {driver : Driver} {setup : Setup} {region : Region} {config : Config}

/-! ## The controller that was opened -/

theorem registers_opened (region : Region) (busAddress : UInt32) (config : Config)
    (driver : Driver) :
    (driver.opened region busAddress config).controller.registers =
      driver.controller.registers :=
  (Controller.registers_log _ _).trans (clearChannels_frame _ driver).2.1

theorem config_opened (region : Region) (busAddress : UInt32) (config : Config)
    (driver : Driver) : (driver.opened region busAddress config).controller.config = config :=
  (Controller.aside_log _ _).config

/-! ## Handing back -/

theorem bitOf_channelBits {channels : Nat} (hchannels : channels ≤ 32) (position : Nat) :
    bitOf (channelBits channels) position = decide (position < channels) := by
  have hfits : (⟨0, channels⟩ : BitField).Fits :=
    ⟨Nat.zero_lt_succ 31, (Nat.zero_add channels).symm ▸ hchannels⟩
  exact BitField.bitOf_limit hfits position

/-- Only the register that enables events is written when the region is handed back. -/
theorem read_closed (setup : Setup) (driver : Driver) (register : Register) :
    (driver.closed setup).controller.read register =
      if register = .interruptEnable then
        driver.controller.read .interruptEnable &&& ~~~channelBits setup.usable
      else driver.controller.read register := by
  have hcleared := (clearChannels_frame (List.range driver.controller.managed)
    (driver.update fun controller => controller.write .interruptEnable
      (controller.read .interruptEnable &&& ~~~channelBits setup.usable))).2.1
  refine (congrArg (·.read register) hcleared).trans ?_
  split
  next hsame => exact hsame ▸ Registers.read_write_self ..
  next hother => exact Registers.read_write_of_ne _ _ hother

theorem managed_closed (setup : Setup) (driver : Driver) :
    (driver.closed setup).controller.managed = driver.controller.managed :=
  (clearChannels_frame (List.range driver.controller.managed)
    (driver.update fun controller => controller.write .interruptEnable
      (controller.read .interruptEnable &&& ~~~channelBits setup.usable))).2.2

end CyclicDma.Driver
