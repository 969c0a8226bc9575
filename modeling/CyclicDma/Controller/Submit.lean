import CyclicDma.Controller.Start
import CyclicDma.Program.Cyclic

/-! # Submitting transfers

Submitting a transfer writes its program into the slab of a stopped channel and
starts it. The transfer is recorded exactly while the slab holds its program.
-/

namespace CyclicDma

/-- What is asked for when a transfer is submitted. -/
structure Order where
  direction : Direction
  source : UInt32
  destination : UInt32
  /-- The bytes of the ring. -/
  totalBytes : UInt32
  /-- The bytes of a period. -/
  periodBytes : UInt32
deriving DecidableEq, Repr

/-- The transfer that carries an order out. Bytes of the ring that do not fill a
period are not moved. -/
def Order.transfer (order : Order) (config : Config) : Transfer :=
  { control := order.direction.control config.control
    direction := order.direction
    source := order.source
    destination := order.destination
    periodBytes := order.periodBytes
    periods := order.totalBytes / order.periodBytes }

/-- The controller has the peripheral of the order, and the periods are not
empty. -/
def Order.SuitedTo (order : Order) (device : Device) : Prop :=
  (∀ peripheral ∈ order.direction.peripheral?, peripheral.toNat < device.peripherals) ∧
    order.periodBytes ≠ 0

instance (order : Order) (device : Device) : Decidable (order.SuitedTo device) :=
  inferInstanceAs (Decidable (_ ∧ ¬ order.periodBytes = 0))

namespace Controller

/-- Record which transfer's program is in the slab of a channel. -/
def setTransfer (transfer : Option Transfer) (channel : Nat) (controller : Controller) :
    Controller :=
  controller.updateRequest channel ({ · with transfer })

/-- Replace the slab of a channel. -/
def storeSlab (slab : List UInt8) (channel : Nat) (controller : Controller) : Controller :=
  { controller with
    setup := controller.setup.map fun setup =>
      { setup with region := setup.region.storeSlab channel slab } }

/-- Write the program of a transfer into the slab of a channel. -/
def install (transfer : Transfer) (channel : Nat) (setup : Setup) :
    Attempt Controller Unit := do
  modify (·.setTransfer none channel)
  match Program.write transfer (UInt8.ofNat channel) (setup.region.slab channel) with
  | .error error => throw error
  | .ok (size, slab) =>
      modify (·.storeSlab slab channel)
      modify (·.setTransfer (some transfer) channel)
      modify (·.log (.programmed channel size transfer.periods transfer.periodBytes))

/-- Write the program of a transfer and start it. The channel must be
stopped. -/
def submit (world : World) (channel : Nat) (order : Order) : Attempt Controller Unit := do
  modify (·.noteAbort channel)
  let controller ← get
  let some setup := controller.setup | throw .notInitialized
  if controller.wasStarted channel || controller.channelState channel ≠ .stopped then
    throw .busy
  if ¬ order.SuitedTo setup.device then
    throw .invalidTransfer
  install (order.transfer controller.config) channel setup
  start world channel

end Controller

end CyclicDma
