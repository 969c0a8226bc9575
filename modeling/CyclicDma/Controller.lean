import CyclicDma.Config
import CyclicDma.Controller.Setup
import CyclicDma.Event

/-! # Controllers

A controller has registers, a notification state for every channel that its
driver manages, and a setup while it is initialized. Everything that its driver
does to it, and everything that it does on its own, is added to its history.
-/

namespace CyclicDma

/-- A controller and the state of its driver. -/
structure Controller where
  registers : Registers
  /-- The configuration of the latest initialization. -/
  config : Config
  setup : Option Setup
  /-- The notification states of the managed channels. -/
  notifications : List Notifications
  /-- The microseconds that the driver has waited. -/
  clock : Nat
  /-- What happened so far, newest first. -/
  history : List Event

namespace Controller

/-- A controller whose driver manages a number of channels, before it is
initialized. No driver manages more channels than a controller can have. -/
def new? (channels : Nat) : Option Controller :=
  if channels ≤ Register.maxChannels then
    some
      { registers := .zero
        config := {}
        setup := none
        notifications := List.replicate channels {}
        clock := 0
        history := [] }
  else none

/-- The number of channels that the driver manages. -/
def managed (controller : Controller) : Nat :=
  controller.notifications.length

def record (event : Event) (controller : Controller) : Controller :=
  { controller with history := event :: controller.history }

/-- Record a message, if the verbosity admits it. -/
def logAt (verbosity : Verbosity) (message : LogMessage) (controller : Controller) :
    Controller :=
  if message.level.isAdmitted verbosity then controller.record (.log message) else controller

/-- Record a message, if the configuration admits it. -/
def log (message : LogMessage) (controller : Controller) : Controller :=
  controller.logAt controller.config.verbosity message

/-- The events since an earlier state of the controller, oldest first. -/
def eventsSince (controller earlier : Controller) : List Event :=
  (controller.history.take (controller.history.length - earlier.history.length)).reverse

/-! ## Registers -/

def read (register : Register) (controller : Controller) : UInt32 :=
  controller.registers.read register

def write (register : Register) (value : UInt32) (controller : Controller) : Controller :=
  { controller with registers := controller.registers.write register value }.record
    (.write register value)

/-- Let a register take a value on its own. -/
def change (register : Register) (value : UInt32) (controller : Controller) : Controller :=
  { controller with registers := controller.registers.write register value }.record
    (.change register value)

/-- Let several registers take values on their own, one after the other. -/
def changeAll (changes : List (Register × UInt32)) (controller : Controller) : Controller :=
  changes.foldl (fun controller (register, value) => controller.change register value) controller

def channelState (channel : Nat) (controller : Controller) : ChannelState :=
  .ofStatus (controller.read (.status channel))

def managerState (controller : Controller) : ManagerState :=
  .ofStatus (controller.read .managerStatus)

def threadState (thread : ThreadId) (controller : Controller) : ThreadState :=
  match thread with
  | .manager => .manager controller.managerState
  | .channel channel => .channel (controller.channelState channel)

/-- Why a channel is faulting, if it is. -/
def channelFault? (channel : Nat) (controller : Controller) : Option Fault :=
  if controller.channelState channel = .faulting then
    some ⟨controller.read (.faultType channel)⟩
  else none

/-- Why the manager is faulting, if it is. -/
def managerFault? (controller : Controller) : Option Fault :=
  if controller.managerState = .faulting then some ⟨controller.read .managerFaultType⟩ else none

end Controller

end CyclicDma
