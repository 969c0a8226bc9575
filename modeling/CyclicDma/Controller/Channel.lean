import CyclicDma.Controller

/-! # Channels of a controller

The notification state of a channel is there as long as the controller is. Its
request is there while the channel is held.
-/

namespace CyclicDma.Controller

/-- The bit of a channel in the registers that hold one bit per channel. The
event of a channel has the channel's number. -/
def channelBit (channel : Nat) : UInt32 :=
  1 <<< UInt32.ofNat channel

/-- A register that holds one bit per channel has the bit of a channel set. -/
def hasChannel (bits : UInt32) (channel : Nat) : Bool :=
  bits &&& channelBit channel != 0

def notificationsOf (channel : Nat) (controller : Controller) : Notifications :=
  controller.notifications.getD channel {}

def updateNotifications (channel : Nat) (update : Notifications → Notifications)
    (controller : Controller) : Controller :=
  { controller with notifications := controller.notifications.modify channel update }

/-- The request of a channel that is held. -/
def request? (channel : Nat) (controller : Controller) : Option Request :=
  controller.setup.bind fun setup => setup.requests[channel]?.join

/-- Change the request of a channel that is held. -/
def updateRequest (channel : Nat) (update : Request → Request) (controller : Controller) :
    Controller :=
  { controller with
    setup := controller.setup.map fun setup =>
      { setup with requests := setup.requests.modify channel (·.map update) } }

/-- Remember whether a channel was started and not stopped since. -/
def setRunning (running : Bool) (channel : Nat) (controller : Controller) : Controller :=
  controller.updateRequest channel ({ · with running })

/-- The holder of a channel started it and did not stop it since. -/
def wasStarted (channel : Nat) (controller : Controller) : Bool :=
  (controller.request? channel).any (·.running)

/-- The channel was started, and neither stopped nor killed since. -/
def isRunning (channel : Nat) (controller : Controller) : Bool :=
  controller.wasStarted channel && !(controller.notificationsOf channel).aborted

/-- The transfer that was last submitted to a channel. -/
def transfer? (channel : Nat) (controller : Controller) : Option Transfer :=
  (controller.request? channel).bind (·.transfer)

/-- If the interrupt handler killed the channel, take note that it is not
running any more. -/
def noteAbort (channel : Nat) (controller : Controller) : Controller :=
  if (controller.notificationsOf channel).aborted then
    controller.updateNotifications channel ({ · with aborted := false })
      |>.setRunning false channel
  else controller

end CyclicDma.Controller
