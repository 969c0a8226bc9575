import CyclicDma.ControlWord
import CyclicDma.Device
import CyclicDma.Log

/-! # Configuration

The configuration is given when a controller is initialized. Its burst shape and
access attributes apply to every transfer.
-/

namespace CyclicDma

/-- How a controller is to be used. -/
structure Config where
  /-- The messages that are recorded. -/
  verbosity : Verbosity := some .warn
  /-- The bytes of a beat. -/
  burstSize : UInt8 := 4
  /-- The beats of a burst. -/
  burstLength : UInt8 := 8
  privileged : Bool := true
  nonsecure : Bool := false
  /-- The cache attributes of transfers. -/
  cacheControl : UInt8 := 0
deriving DecidableEq, Repr

namespace Config

/-- Record messages up to a level. -/
def withVerbosity (verbosity : Verbosity) (config : Config) : Config :=
  { config with verbosity }

/-- Move bursts of `length` beats of `size` bytes. -/
def withBurst (size length : UInt8) (config : Config) : Config :=
  { config with burstSize := size, burstLength := length }

def withNonsecure (nonsecure : Bool) (config : Config) : Config :=
  { config with nonsecure }

def withPrivileged (privileged : Bool) (config : Config) : Config :=
  { config with privileged }

/-- Set the cache attributes, of which there are three bits. -/
def withCacheControl (bits : UInt8) (config : Config) : Config :=
  { config with cacheControl := bits &&& 0x7 }

/-- The control word that every transfer starts from. -/
def control (config : Config) : ControlWord :=
  ControlWord.zero |>.burst config.burstSize.toUInt32 config.burstLength.toUInt32
    |>.protection config.privileged config.nonsecure |>.cache config.cacheControl

/-- The controller's bus can carry the beats of the configuration, and a burst
holds its beats. -/
def SupportedBy (config : Config) (device : Device) : Prop :=
  config.burstSize.toNat ∈ [1, 2, 4, 8, 16] ∧ config.burstSize.toNat ≤ device.busBytes ∧
    1 ≤ config.burstLength.toNat ∧ config.burstLength.toNat ≤ 16

instance (config : Config) (device : Device) : Decidable (config.SupportedBy device) := by
  unfold SupportedBy
  infer_instance

end Config

end CyclicDma
