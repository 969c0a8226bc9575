import CyclicDma.Driver

/-! # Allocating channels

Initializing a controller divides a region among its usable channels. A channel
is allocated to one holder at a time and given back when it does not run, and
the region is handed back when all channels are.
-/

namespace CyclicDma.Driver

/-- The number of channels that can be used: the driver manages them, and the
controller has them, with an event for each. -/
def usableChannels (device : Device) (controller : Controller) : Nat :=
  min controller.managed (min device.channels device.events)

/-- Read what the controller can do, and divide a region among its channels. -/
def init (region : Region) (busAddress : UInt32) (config : Config) : Attempt Driver Device := do
  let controller := (← get).controller
  let device := Device.ofRegisters controller.registers
  if ¬ config.SupportedBy device then
    modify (·.update (·.logAt config.verbosity
      (.unsupportedBurst config.burstLength config.burstSize device.busWidth)))
    throw .invalidTransfer
  let usable := usableChannels device controller
  if region.bytes.length < Region.slabBytes * usable then
    throw .resourceExhausted
  if controller.setup.isSome then
    throw .busy
  modify fun driver => (List.range usable).foldl clearChannel driver
  modify (·.update ({ · with
    config
    setup := some { device, region, busAddress, requests := List.replicate usable none } }))
  modify (·.update (·.log (.initialized device.identification device.channels
    device.peripherals device.events usable)))
  return device

/-- The channel to allocate: the one that is asked for, or the first free
one. -/
def chooseChannel (index : Option Nat) (setup : Setup) : Except DmaError Nat :=
  match index with
  | some channel =>
      match setup.requests[channel]? with
      | none => .error .invalidHandle
      | some (some _) => .error .resourceExhausted
      | some none => .ok channel
  | none =>
      match setup.requests.findIdx? (·.isNone) with
      | none => .error .resourceExhausted
      | some channel => .ok channel

/-- Allocate a channel. Returns its number. -/
def allocate (index : Option Nat) : Attempt Driver Nat := do
  let some setup := (← get).controller.setup | throw .notInitialized
  match chooseChannel index setup with
  | .error error => throw error
  | .ok channel =>
      modify (·.update ({ · with
        setup := some { setup with requests := setup.requests.set channel (some {}) } }))
      return channel

/-- Give a channel back. Its registrations are removed. A running channel is not
taken back. -/
def release (channel : Nat) : Attempt Driver Unit := do
  if (← get).controller.isRunning channel then
    throw .busy
  modify (·.clearChannel channel)
  modify (·.update fun controller =>
    { controller with
      setup := controller.setup.map fun setup =>
        { setup with requests := setup.requests.set channel none } })

/-- The event bits of the first channels. -/
def channelBits (channels : Nat) : UInt32 :=
  UInt32.ofNat ((1 <<< channels) - 1)

/-- Hand the region back, once all channels are free. -/
def deinit : Attempt Driver Region := do
  let controller := (← get).controller
  let some setup := controller.setup | throw .notInitialized
  if setup.requests.any (·.isSome) then
    throw .busy
  modify (·.update fun controller =>
    controller.write .interruptEnable
      (controller.read .interruptEnable &&& ~~~channelBits setup.usable))
  modify fun driver => (List.range driver.controller.managed).foldl clearChannel driver
  modify (·.update ({ · with setup := none }))
  return setup.region

end CyclicDma.Driver
