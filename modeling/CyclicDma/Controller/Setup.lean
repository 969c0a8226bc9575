import CyclicDma.Device
import CyclicDma.Transfer

/-! # Regions and requests

While a controller is initialized, it has a region of memory that holds the
programs of its channels, one slab for each usable channel. A channel is free,
or it is held by someone, whose request then belongs to the channel.
-/

namespace CyclicDma

/-- A region of memory for programs. -/
structure Region where
  /-- Tells regions apart. -/
  number : Nat
  bytes : List UInt8
deriving DecidableEq, Repr

namespace Region

/-- The number of bytes of a slab. -/
def slabBytes : Nat := 256

/-- The slab of a channel. -/
def slab (region : Region) (channel : Nat) : List UInt8 :=
  (region.bytes.drop (slabBytes * channel)).take slabBytes

/-- Replace the slab of a channel. -/
def storeSlab (region : Region) (channel : Nat) (slab : List UInt8) : Region :=
  { region with
    bytes := region.bytes.take (slabBytes * channel) ++ slab ++
      region.bytes.drop (slabBytes * channel + slab.length) }

end Region

/-- What the holder of a channel asked for. -/
structure Request where
  /-- The transfer whose program is in the channel's slab. -/
  transfer : Option Transfer := none
  /-- The channel was started, and not stopped since. -/
  running : Bool := false
deriving DecidableEq, Repr

/-- What a controller has while it is initialized. -/
structure Setup where
  device : Device
  region : Region
  /-- Where the controller finds the start of the region. -/
  busAddress : UInt32
  /-- The requests of the usable channels. A free channel has none. -/
  requests : List (Option Request)
deriving DecidableEq, Repr

namespace Setup

/-- The number of channels that can be used. -/
def usable (setup : Setup) : Nat :=
  setup.requests.length

/-- Where the controller finds the slab of a channel. -/
def slabAddress (setup : Setup) (channel : Nat) : UInt32 :=
  setup.busAddress + UInt32.ofNat (Region.slabBytes * channel)

end Setup

end CyclicDma
